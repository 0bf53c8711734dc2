import Mathlib.Data.List.Forall2
import HexapodVerified.Protocol.Framing

/-!
# Framing on the controller

The encoder's loop writes `stuff`, the decoder's loop reads with `unstuff` as long as the output buffer
has room.
-/

namespace HexapodVerified.Protocol

open Bytes Stuffing

variable {src done run bytes dst : List UInt8} {dst_cap fuel : Nat}

/-- The blocks `done` are closed and the block `run` is open behind its reserved code. -/
structure CobsEncoder.Holds (enc : CobsEncoder) (done run : List UInt8) : Prop where
  dst : enc.dst = done ++ 0 :: run
  code_idx : enc.code_idx = done.length
  code : enc.code = Stuffing.code run
  opened : Open run

namespace CobsEncoder

variable {enc : CobsEncoder}

theorem set_code {c : UInt8} : (done ++ 0 :: run).set done.length c = done ++ c :: run := by
  rw [List.set_append_right _ _ (Nat.le_refl _), Nat.sub_self, List.set_cons_zero]

theorem holds_start : Holds {} [] [] := ⟨rfl, rfl, rfl, .nil⟩

theorem holds_closeBlock (hdst : enc.dst = done ++ 0 :: run) (hidx : enc.code_idx = done.length) :
    enc.closeBlock.Holds (done ++ enc.code :: run) [] := by
  refine ⟨?_, ?_, rfl, .nil⟩
  · unfold closeBlock
    rw [hdst, hidx, set_code]
  · unfold closeBlock
    rw [hdst, List.length_append, List.length_append, List.length_cons, List.length_cons]

theorem code_snoc (byte : UInt8) : Stuffing.code run + 1 = Stuffing.code (run ++ [byte]) := by
  unfold Stuffing.code
  rw [List.length_append, List.length_singleton, UInt8.ofNat_add (run.length + 1) 1]
  rfl

theorem code_eq_max (hopen : Open run) (byte : UInt8) :
    Stuffing.code (run ++ [byte]) = 0xFF ↔ run.length + 1 = 254 := by
  have hlen : (run ++ [byte]).length = run.length + 1 := by
    rw [List.length_append, List.length_singleton]
  have hshort := hopen.short
  have hcode := @code_toNat (run ++ [byte]) (by omega)
  constructor
  · intro heq
    have hmax : (0xFF : UInt8).toNat = 255 := rfl
    rw [heq, hmax] at hcode
    omega
  · intro hfull
    unfold Stuffing.code
    rw [hlen, hfull]
    rfl

theorem next_zero : enc.next 0 = enc.closeBlock := by
  unfold next
  rw [if_pos rfl]

theorem next_full {byte : UInt8} (hzero : byte ≠ 0) (hfull : enc.code + 1 = 0xFF) :
    enc.next byte =
      closeBlock { enc with dst := enc.dst ++ [byte], code := enc.code + 1 } := by
  unfold next
  rw [if_neg hzero]
  exact if_pos hfull

theorem next_open {byte : UInt8} (hzero : byte ≠ 0) (hopen : enc.code + 1 ≠ 0xFF) :
    enc.next byte = { enc with dst := enc.dst ++ [byte], code := enc.code + 1 } := by
  unfold next
  rw [if_neg hzero]
  exact if_neg hopen

theorem foldl_next (h : enc.Holds done run) :
    (bytes.foldl next enc).dst.set (bytes.foldl next enc).code_idx (bytes.foldl next enc).code =
      done ++ stuff run bytes := by
  induction bytes generalizing enc done run with
  | nil =>
    rw [List.foldl_nil, h.dst, h.code_idx, h.code, set_code]
    rfl
  | cons byte bytes ih =>
    have hgrown : enc.dst ++ [byte] = done ++ 0 :: (run ++ [byte]) := by
      rw [h.dst, List.append_assoc, List.cons_append]
    have hcode : enc.code + 1 = Stuffing.code (run ++ [byte]) := by
      rw [h.code, code_snoc]
    rw [List.foldl_cons]
    unfold stuff
    split_ifs with hzero hfull
    · rw [hzero, next_zero, ih (holds_closeBlock h.dst h.code_idx), h.code, List.append_assoc,
        List.cons_append]
    · have hmax : enc.code + 1 = 0xFF := by
        rw [hcode]
        exact (code_eq_max h.opened byte).mpr hfull
      have hclosed := @holds_closeBlock done (run ++ [byte])
        { enc with dst := enc.dst ++ [byte], code := enc.code + 1 } hgrown h.code_idx
      rw [next_full hzero hmax, ih hclosed]
      show done ++ (enc.code + 1) :: (run ++ [byte]) ++ _ = _
      rw [hcode, List.append_assoc, List.cons_append]
    · have hmax : enc.code + 1 ≠ 0xFF := by
        rw [hcode]
        exact fun heq => hfull ((code_eq_max h.opened byte).mp heq)
      rw [next_open hzero hmax]
      exact ih ⟨hgrown, h.code_idx, hcode, h.opened.snoc hzero hfull⟩

end CobsEncoder

theorem cobsEncode_eq (hcap : cobsMaxEncodedLen src.length ≤ dst_cap) :
    cobsEncode src dst_cap = stuff [] src := by
  unfold cobsEncode
  rw [if_neg (Nat.not_lt.mpr hcap)]
  exact CobsEncoder.foldl_next CobsEncoder.holds_start

/-- What was read, if it fits `dst_cap` bytes behind `dst`. -/
def fitting (dst_cap : Nat) (dst : List UInt8) (decoded : Option (List UInt8)) :
    Option (List UInt8) :=
  (decoded.map (dst ++ ·)).filter (·.length ≤ dst_cap)

theorem fitting_some {bytes : List UInt8} (h : dst.length + bytes.length ≤ dst_cap) :
    fitting dst_cap dst (some bytes) = some (dst ++ bytes) := by
  unfold fitting
  rw [Option.map_some, Option.filter_some, if_pos]
  rw [decide_eq_true_eq, List.length_append]
  exact h

theorem fitting_append {block : List UInt8} {decoded : Option (List UInt8)} :
    fitting dst_cap (dst ++ block) decoded = fitting dst_cap dst (decoded.map (block ++ ·)) := by
  cases decoded with
  | none => rfl
  | some later =>
    unfold fitting
    rw [Option.map_some, Option.map_some, Option.map_some, List.append_assoc]

theorem fitting_eq_none {block : List UInt8} {decoded : Option (List UInt8)}
    (h : dst_cap < dst.length + block.length) :
    fitting dst_cap dst (decoded.map (block ++ ·)) = none := by
  cases decoded with
  | none => rfl
  | some later =>
    unfold fitting
    rw [Option.map_some, Option.map_some, Option.filter_some, if_neg]
    rw [decide_eq_true_eq, List.length_append, List.length_append]
    omega

theorem cobsDecodeLoop_eq (hfuel : src.length ≤ fuel) (hdst : dst.length ≤ dst_cap) :
    cobsDecodeLoop dst_cap fuel src dst = fitting dst_cap dst (unstuff src) := by
  induction fuel generalizing src dst with
  | zero =>
    obtain rfl := List.length_eq_zero_iff.mp (Nat.le_zero.mp hfuel)
    rw [unstuff, fitting_some hdst, List.append_nil]
    rfl
  | succ fuel ih =>
    cases src with
    | nil =>
      rw [unstuff, fitting_some hdst, List.append_nil]
      rfl
    | cons code rest =>
      have hrest : (rest.drop (code.toNat - 1)).length ≤ fuel := by
        rw [List.length_cons] at hfuel
        rw [List.length_drop]
        omega
      unfold cobsDecodeLoop
      rw [unstuff]
      by_cases hbad : code = 0 ∨ rest.length + 1 < code.toNat
      · rw [if_pos hbad]
        rcases hbad with hzero | hpast
        · rw [if_pos hzero]
          rfl
        · rw [if_pos hpast, ite_self]
          rfl
      · rw [if_neg hbad]
        rw [not_or] at hbad
        rw [if_neg hbad.1, if_neg hbad.2]
        dsimp only
        generalize rest.take (code.toNat - 1) = block
        generalize rest.drop (code.toNat - 1) = later at hrest ⊢
        have hread : (unstuff later).map (fun bytes => block ++ (ending code later ++ bytes)) =
            ((unstuff later).map (ending code later ++ ·)).map (block ++ ·) := by
          rw [Option.map_map]
          rfl
        rw [hread]
        by_cases hblock : dst_cap < dst.length + block.length
        · rw [if_pos hblock, fitting_eq_none hblock]
        · have hroom : (dst ++ block).length ≤ dst_cap := by
            rw [List.length_append]
            omega
          rw [if_neg hblock, ← fitting_append]
          unfold ending
          split_ifs with hend hfull
          · rw [fitting_eq_none]
            rw [List.length_singleton]
            omega
          · rw [← fitting_append]
            refine ih hrest ?_
            rw [List.length_append, List.length_singleton]
            omega
          · rw [ih hrest hroom]
            cases unstuff later <;> rfl

theorem cobsDecode_eq : cobsDecode src dst_cap = (fitting dst_cap [] (unstuff src)).getD [] := by
  unfold cobsDecode
  rw [cobsDecodeLoop_eq (Nat.le_refl _) (Nat.zero_le _)]

theorem cobsDecode_cobsEncode {src_cap : Nat} (hcap : cobsMaxEncodedLen src.length ≤ src_cap)
    (hdst : src.length ≤ dst_cap) : cobsDecode (cobsEncode src src_cap) dst_cap = src := by
  rw [cobsDecode_eq, cobsEncode_eq hcap, unstuff_stuff .nil, List.nil_append,
    fitting_some (by simpa using hdst), List.nil_append, Option.getD_some]

/-!
## What is framed is received

A frame body is decoded to its header and its payload. A reader that starts anywhere is in step after the
first delimiter, and from there on it delivers the bodies of the frames one by one, however the stream is
cut into buffers.
-/

variable {header : Header} {payload body : List UInt8} {out_cap : Nat}

structure Announces (header : Header) (payload : List UInt8) : Prop where
  magic : header.magic = kMagic
  payload_len : header.payload_len.toNat = payload.length
  short : payload.length ≤ kMaxPayload

theorem writeHeader_length : (writeHeader header).length = kHeaderLen := rfl

theorem readHeader_writeHeader {rest : List UInt8} :
    readHeader (writeHeader header ++ rest) = header := by
  have hseq : getU16 ((writeHeader header ++ rest).drop 6) = header.seq :=
    @getU16_putU16 (putU32 header.timestamp_ms ++ putU16 header.payload_len ++ rest) header.seq
  have htime : getU32 ((writeHeader header ++ rest).drop 8) = header.timestamp_ms :=
    @getU32_putU32 (putU16 header.payload_len ++ rest) header.timestamp_ms
  have hlen : getU16 ((writeHeader header ++ rest).drop 12) = header.payload_len :=
    @getU16_putU16 rest header.payload_len
  unfold readHeader
  rw [hseq, htime, hlen]
  rfl

def covered (header : Header) (payload : List UInt8) : List UInt8 := writeHeader header ++ payload

theorem covered_length : (covered header payload).length = kHeaderLen + payload.length := by
  unfold covered
  rw [List.length_append, writeHeader_length]

theorem frameBody_eq (h : Announces header payload) :
    frameBody header payload = covered header payload ++ putU16 (crc16 (covered header payload)) := by
  unfold frameBody
  rw [List.take_of_length_le (Nat.le_of_eq h.payload_len.symm)]
  rfl

theorem frameBody_length (h : Announces header payload) :
    (frameBody header payload).length = kHeaderLen + payload.length + kCrcLen := by
  rw [frameBody_eq h, List.length_append, covered_length, putU16_length]

theorem Announces.fits (h : Announces header payload) (hcap : kMaxWireFrame ≤ out_cap) :
    cobsMaxEncodedLen (kHeaderLen + payload.length + kCrcLen) + 2 ≤ out_cap := by
  have hshort := h.short
  unfold kMaxWireFrame kMaxFrameBody cobsMaxEncodedLen at hcap
  unfold cobsMaxEncodedLen
  dsimp only [kHeaderLen, kCrcLen, kMaxPayload] at *
  omega

def stuffedBody (header : Header) (payload : List UInt8) : List UInt8 :=
  stuff [] (frameBody header payload)

theorem encodeFrame_eq (h : Announces header payload)
    (hcap : cobsMaxEncodedLen (kHeaderLen + payload.length + kCrcLen) + 2 ≤ out_cap) :
    encodeFrame header payload out_cap = [0] ++ stuffedBody header payload ++ [0] := by
  have hshort := h.short
  have hlen := h.payload_len
  unfold encodeFrame
  dsimp only
  rw [if_neg (by omega), frameBody_length h, if_neg (by omega)]
  rw [cobsEncode_eq (by rw [frameBody_length h]; omega), if_neg (stuff_ne_nil _ _)]
  rfl

theorem stuffedBody_length_le (h : Announces header payload) :
    (stuffedBody header payload).length ≤ kMaxFrameBodyCobs := by
  have hlen := @stuff_length_le [] (frameBody header payload) .nil
  have hshort := h.short
  rw [List.length_nil, Nat.zero_add, frameBody_length h] at hlen
  unfold stuffedBody kMaxFrameBodyCobs kMaxFrameBody cobsMaxEncodedLen
  dsimp only [kHeaderLen, kCrcLen, kMaxPayload] at *
  omega

theorem decodeFrameBody_stuffedBody (h : Announces header payload) (before : Header)
    {payload_cap : Nat} (hcap : kMaxPayload ≤ payload_cap) :
    decodeFrameBody (stuffedBody header payload) before payload_cap = ⟨.ok, header, payload⟩ := by
  have hlen := h.payload_len
  have hshort := h.short
  have hbody := frameBody_length h
  have hdecode : cobsDecode (stuffedBody header payload) kMaxFrameBody =
      frameBody header payload := by
    unfold stuffedBody
    rw [cobsDecode_eq, unstuff_stuff .nil, List.nil_append, fitting_some, List.nil_append,
      Option.getD_some]
    rw [List.length_nil, hbody]
    dsimp only [kMaxFrameBody]
    omega
  have hread : readHeader (frameBody header payload) = header := by
    rw [frameBody_eq h]
    unfold covered
    rw [List.append_assoc, readHeader_writeHeader]
  have hfirst : (frameBody header payload).getD 0 0 = header.magic := by
    rw [← congrArg Header.magic hread]
    rfl
  have htake : (frameBody header payload).take (kHeaderLen + payload.length) =
      covered header payload := by
    rw [frameBody_eq h, ← covered_length, List.take_left]
  have hcrc : getU16 ((frameBody header payload).drop (kHeaderLen + payload.length)) =
      crc16 (covered header payload) := by
    rw [frameBody_eq h, ← covered_length, List.drop_left, getU16_putU16_self]
  have hpayload : ((frameBody header payload).drop kHeaderLen).take payload.length = payload := by
    rw [frameBody_eq h]
    unfold covered
    rw [List.append_assoc, ← @writeHeader_length header, List.drop_left, List.take_left]
  unfold decodeFrameBody
  dsimp only
  rw [hdecode, hbody, if_neg (by dsimp only [kHeaderLen]; omega), if_neg (by omega), hfirst, hread,
    if_neg (not_not.mpr h.magic), hlen, if_neg (by omega), htake, hcrc, if_neg (not_not.mpr rfl),
    if_neg (by omega), hpayload]

namespace FrameReader

variable {reader : FrameReader} {bytes rest : List UInt8}

structure Idle (reader : FrameReader) : Prop where
  buf : reader.restart.buf = []
  overflow : reader.restart.overflow = false

def delivery (reader : FrameReader) (byte : UInt8) : List (List UInt8) :=
  if (reader.push byte).2 then [(reader.push byte).1.buf] else []

theorem receive_cons {byte : UInt8} : reader.receive (byte :: bytes) =
    (((reader.push byte).1.receive bytes).1,
      reader.delivery byte ++ ((reader.push byte).1.receive bytes).2) := by
  unfold delivery
  conv_lhs => unfold receive
  dsimp only
  split_ifs <;> rfl

theorem receive_append : reader.receive (bytes ++ rest) =
    (((reader.receive bytes).1.receive rest).1,
      (reader.receive bytes).2 ++ ((reader.receive bytes).1.receive rest).2) := by
  induction bytes generalizing reader with
  | nil => rfl
  | cons byte bytes ih => rw [List.cons_append, receive_cons, receive_cons, ih, List.append_assoc]

/-- How a stream is cut into buffers does not matter. -/
theorem receiveAll_eq {chunks : List (List UInt8)} :
    reader.receiveAll chunks = reader.receive chunks.flatten := by
  induction chunks generalizing reader with
  | nil => rfl
  | cons chunk chunks ih =>
    rw [List.flatten_cons, receive_append]
    unfold receiveAll
    dsimp only
    rw [ih]

theorem idle_push_zero : (reader.push 0).1.Idle := by
  unfold push
  rw [if_pos rfl]
  split_ifs
  · exact ⟨rfl, rfl⟩
  · refine ⟨?_, ?_⟩
    · unfold restart
      split_ifs <;> rfl
    · unfold restart
      split_ifs <;> rfl

theorem idle_receive_zero : (reader.receive (bytes ++ [0])).1.Idle := by
  rw [receive_append]
  exact idle_push_zero

/-- `buf` is what the open frame holds so far. -/
structure Holds (reader : FrameReader) (buf : List UInt8) : Prop where
  buf : reader.buf = buf
  overflow : reader.overflow = false
  ready : reader.ready = false

theorem push_zero_idle (h : reader.Idle) :
    (reader.push 0).1.Holds [] ∧ reader.delivery 0 = [] := by
  have hready : reader.restart.ready = false := by
    unfold restart
    split_ifs with hset
    · rfl
    · exact Bool.not_eq_true _ ▸ hset
  have hpush : reader.push 0 = ({ reader.restart with buf := [], overflow := false }, false) := by
    unfold push
    rw [if_pos rfl, if_neg]
    rw [h.buf]
    exact fun hopen => absurd hopen.1 (Nat.lt_irrefl _)
  unfold delivery
  rw [hpush]
  exact ⟨⟨rfl, rfl, hready⟩, rfl⟩

theorem Holds.restart {buf : List UInt8} (h : reader.Holds buf) : reader.restart = reader := by
  unfold FrameReader.restart
  rw [h.ready]
  rfl

/-- A byte of a frame is kept. -/
theorem push_byte {buf : List UInt8} {byte : UInt8} (h : reader.Holds buf) (hbyte : byte ≠ 0)
    (hroom : buf.length < kMaxFrameBodyCobs) :
    (reader.push byte).1.Holds (buf ++ [byte]) ∧ reader.delivery byte = [] := by
  have hpush : reader.push byte = ({ reader with buf := reader.buf ++ [byte] }, false) := by
    unfold push
    rw [h.restart, if_neg hbyte, if_neg (by rw [h.overflow]; exact Bool.false_ne_true), h.buf,
      if_neg (Nat.not_le.mpr hroom)]
  unfold delivery
  rw [hpush]
  exact ⟨⟨by rw [h.buf], h.overflow, h.ready⟩, rfl⟩

theorem receive_open {buf : List UInt8} (h : reader.Holds buf) (hbytes : 0 ∉ bytes)
    (hroom : buf.length + bytes.length ≤ kMaxFrameBodyCobs) :
    (reader.receive bytes).1.Holds (buf ++ bytes) ∧ (reader.receive bytes).2 = [] := by
  induction bytes generalizing reader buf with
  | nil =>
    rw [List.append_nil]
    exact ⟨h, rfl⟩
  | cons byte bytes ih =>
    rw [List.mem_cons, not_or] at hbytes
    rw [List.length_cons] at hroom
    obtain ⟨hheld, hnone⟩ := push_byte h (Ne.symm hbytes.1) (by omega)
    obtain ⟨hlast, hrest⟩ := ih hheld hbytes.2 (by
      rw [List.length_append, List.length_singleton]
      omega)
    rw [receive_cons]
    rw [hnone, hrest]
    rw [List.append_assoc, List.singleton_append] at hlast
    exact ⟨hlast, rfl⟩

theorem push_end {buf : List UInt8} (h : reader.Holds buf) (hbuf : buf ≠ []) :
    reader.delivery 0 = [buf] := by
  have hpush : reader.push 0 =
      ({ reader with ready := true, frames_ok := reader.frames_ok + 1 }, true) := by
    unfold push
    rw [h.restart, if_pos rfl, if_pos]
    rw [h.buf, h.overflow]
    exact ⟨List.length_pos_of_ne_nil hbuf, rfl⟩
  unfold delivery
  rw [hpush, if_pos rfl, h.buf]

theorem receive_frame (h : reader.Idle) (hbody : 0 ∉ body) (hne : body ≠ [])
    (hlen : body.length ≤ kMaxFrameBodyCobs) :
    (reader.receive ([0] ++ body ++ [0])).2 = [body] := by
  obtain ⟨hstart, hnone⟩ := push_zero_idle h
  obtain ⟨hheld, hkept⟩ := receive_open hstart hbody (by
    rw [List.length_nil, Nat.zero_add]
    exact hlen)
  rw [List.nil_append] at hheld
  rw [List.append_assoc, List.singleton_append, receive_cons, receive_append]
  rw [hnone, hkept, receive_cons, push_end hheld hne]
  rfl

theorem receive_frames {bodies : List (List UInt8)} (h : reader.Idle)
    (hbodies : ∀ body ∈ bodies, 0 ∉ body ∧ body ≠ [] ∧ body.length ≤ kMaxFrameBodyCobs) :
    (reader.receive (bodies.flatMap fun body => [0] ++ body ++ [0])).2 = bodies := by
  induction bodies generalizing reader with
  | nil => rfl
  | cons body bodies ih =>
    obtain ⟨hzero, hne, hlen⟩ := hbodies body List.mem_cons_self
    rw [List.flatMap_cons, receive_append]
    rw [receive_frame h hzero hne hlen, ih idle_receive_zero fun body hmem =>
      hbodies body (List.mem_cons_of_mem _ hmem)]
    rfl

end FrameReader

theorem stuffedBody_ready (h : Announces header payload) :
    0 ∉ stuffedBody header payload ∧ stuffedBody header payload ≠ [] ∧
      (stuffedBody header payload).length ≤ kMaxFrameBodyCobs :=
  ⟨zero_notMem_stuff .nil, stuff_ne_nil _ _, stuffedBody_length_le h⟩

/-- Frames behind any delimited string, cut into any buffers, are delivered and decoded in order. What is
encoded has no delimiter and fits the reader, and stuffing is undone. -/
theorem frames_received (reader : FrameReader) (garbage : List UInt8)
    (frames : List (Header × List UInt8)) (hframes : ∀ frame ∈ frames, Announces frame.1 frame.2)
    (out_cap : Nat) (hcap : kMaxWireFrame ≤ out_cap) (chunks : List (List UInt8))
    (hchunks : chunks.flatten = garbage ++ [0] ++
      frames.flatMap fun frame => encodeFrame frame.1 frame.2 out_cap) :
    (∃ bodies, (reader.receiveAll chunks).2 = (reader.receive (garbage ++ [0])).2 ++ bodies ∧
      List.Forall₂ (fun body frame => ∀ before payload_cap, kMaxPayload ≤ payload_cap →
        decodeFrameBody body before payload_cap = ⟨.ok, frame.1, frame.2⟩) bodies frames) ∧
    (∀ frame ∈ frames, ∃ body, encodeFrame frame.1 frame.2 out_cap = [0] ++ body ++ [0] ∧
      0 ∉ body ∧ body.length ≤ kMaxFrameBodyCobs) ∧
    ∀ x src_cap dst_cap, x ≠ [] → cobsMaxEncodedLen x.length ≤ src_cap → x.length ≤ dst_cap →
      cobsDecode (cobsEncode x src_cap) dst_cap = x := by
  have hencode : ∀ frame ∈ frames,
      encodeFrame frame.1 frame.2 out_cap = [0] ++ stuffedBody frame.1 frame.2 ++ [0] := by
    intro frame hmem
    exact encodeFrame_eq (hframes frame hmem) ((hframes frame hmem).fits hcap)
  refine ⟨⟨frames.map fun frame => stuffedBody frame.1 frame.2, ?_, ?_⟩, ?_, ?_⟩
  · have hstream : frames.flatMap (fun frame => encodeFrame frame.1 frame.2 out_cap) =
        (frames.map fun frame => stuffedBody frame.1 frame.2).flatMap
          fun body => [0] ++ body ++ [0] := by
      rw [List.flatMap_map]
      exact List.flatMap_congr hencode
    have hready : ∀ body ∈ frames.map fun frame => stuffedBody frame.1 frame.2,
        0 ∉ body ∧ body ≠ [] ∧ body.length ≤ kMaxFrameBodyCobs := by
      intro body hmem
      obtain ⟨frame, hin, rfl⟩ := List.mem_map.mp hmem
      exact stuffedBody_ready (hframes frame hin)
    rw [FrameReader.receiveAll_eq, hchunks, FrameReader.receive_append, hstream]
    rw [FrameReader.receive_frames FrameReader.idle_receive_zero hready]
  · rw [List.forall₂_map_left_iff]
    refine List.forall₂_same.mpr fun frame hmem before payload_cap hroom => ?_
    exact decodeFrameBody_stuffedBody (hframes frame hmem) before hroom
  · intro frame hmem
    obtain ⟨hzero, -, hlen⟩ := stuffedBody_ready (hframes frame hmem)
    exact ⟨_, hencode frame hmem, hzero, hlen⟩
  · intro x src_cap dst_cap _ hsrc hdst
    exact cobsDecode_cobsEncode hsrc hdst

/-- A message with a payload byte that is zero. -/
def ping : Header := { msg_type := 1, seq := 7, payload_len := 1 }

theorem frames_received_ping :
    (∃ bodies, (FrameReader.receiveAll {} [[3, 0], (encodeFrame ping [0] kMaxWireFrame).take 5,
          (encodeFrame ping [0] kMaxWireFrame).drop 5]).2 =
        (FrameReader.receive {} ([3] ++ [0])).2 ++ bodies ∧
      List.Forall₂ (fun body (frame : Header × List UInt8) => ∀ before payload_cap,
        kMaxPayload ≤ payload_cap →
          decodeFrameBody body before payload_cap = ⟨.ok, frame.1, frame.2⟩) bodies [(ping, [0])]) :=
  (frames_received {} [3] [(ping, [0])]
    (by
      intro frame hmem
      obtain rfl := List.mem_singleton.mp hmem
      exact ⟨rfl, rfl, by decide⟩)
    kMaxWireFrame (Nat.le_refl _)
    [[3, 0], (encodeFrame ping [0] kMaxWireFrame).take 5,
      (encodeFrame ping [0] kMaxWireFrame).drop 5]
    (by
      rw [List.flatten_cons, List.flatten_cons, List.flatten_cons, List.flatten_nil,
        List.append_nil, List.take_append_drop, List.flatMap_singleton]
      rfl)).1

/-!
## What the frame reader makes of a stream

The reader scans the stream: it has the open run in its buffer as long as that fits, and drops it from the
byte on that does not. Its counters count ended runs and overflowed ones.
-/

namespace FrameReader

open Delimited

def Overflows (run : List UInt8) : Prop := kMaxFrameBodyCobs < run.length

instance : DecidablePred Overflows := fun run =>
  inferInstanceAs (Decidable (kMaxFrameBodyCobs < run.length))

/-- The state of the reader behind the ended runs, within the open one. -/
structure Tracks (runs : List (List UInt8)) (run : List UInt8) (reader : FrameReader) : Prop where
  buf : reader.restart.buf = held kMaxFrameBodyCobs run
  overflow : reader.restart.overflow = decide (Overflows run)
  frames_ok : reader.frames_ok = UInt32.ofNat (runs.countP fun run => Fits kMaxFrameBodyCobs run)
  overflows_dropped : reader.overflows_dropped =
    UInt32.ofNat ((runs ++ [run]).countP fun run => Overflows run)

def scanStep (reader : FrameReader) (byte : UInt8) : FrameReader × List (List UInt8) :=
  ((reader.push byte).1, reader.delivery byte)

theorem receive_eq_scan (reader : FrameReader) (bytes : List UInt8) :
    reader.receive bytes = scan scanStep reader bytes := by
  induction bytes generalizing reader with
  | nil => rfl
  | cons byte bytes ih =>
    rw [receive_cons, ih]
    rfl

variable {reader : FrameReader} {runs : List (List UInt8)} {run : List UInt8} {byte : UInt8}

theorem restart_counters (reader : FrameReader) :
    reader.restart.frames_ok = reader.frames_ok ∧
      reader.restart.overflows_dropped = reader.overflows_dropped ∧ reader.restart.ready = false := by
  by_cases hready : reader.ready = true
  · simp [restart, hready]
  · simp [restart, hready]

theorem restart_of_ready (h : reader.ready = false) : reader.restart = reader := by
  simp [restart, h]

theorem Tracks.of_ready (hready : reader.ready = false)
    (hbuf : reader.buf = held kMaxFrameBodyCobs run)
    (hoverflow : reader.overflow = decide (Overflows run))
    (hframes : reader.frames_ok = UInt32.ofNat (runs.countP fun run => Fits kMaxFrameBodyCobs run))
    (hdropped : reader.overflows_dropped =
      UInt32.ofNat ((runs ++ [run]).countP fun run => Overflows run)) : Tracks runs run reader where
  buf := by rw [restart_of_ready hready, hbuf]
  overflow := by rw [restart_of_ready hready, hoverflow]
  frames_ok := hframes
  overflows_dropped := hdropped

theorem tracks_start : Tracks [] [] {} := .of_ready rfl rfl rfl rfl rfl

theorem Tracks.push_byte (h : Tracks runs run reader) (hbyte : byte ≠ 0) :
    Tracks runs (run ++ [byte]) (reader.push byte).1 ∧ reader.delivery byte = [] := by
  rcases restart_counters reader with ⟨hok, hdropped, hready⟩
  rcases h with ⟨hbuf, hoverflow, hframes, hoverflows⟩
  have hlength : (run ++ [byte]).length = run.length + 1 := by simp
  rw [List.countP_append, List.countP_singleton] at hoverflows
  unfold delivery push
  rw [if_neg hbyte]
  by_cases hover : Overflows run
  · -- the run is being dropped already
    have hlonger : Overflows (run ++ [byte]) := by
      unfold Overflows at hover ⊢
      omega
    rw [if_pos (hoverflow.trans (decide_eq_true hover))]
    refine ⟨.of_ready hready ?_ ?_ (hok.trans hframes) ?_, rfl⟩
    · rw [hbuf, held_of_lt hover, held_of_lt hlonger]
    · rw [hoverflow, decide_eq_true hover, decide_eq_true hlonger]
    · rw [List.countP_append, List.countP_singleton, hdropped, hoverflows]
      simp [hover, hlonger]
  · have hfit : run.length ≤ kMaxFrameBodyCobs := Nat.not_lt.mp hover
    have hheld : held kMaxFrameBodyCobs run = run := if_pos hfit
    rw [hoverflow, decide_eq_false hover, hbuf, hheld, if_neg Bool.false_ne_true]
    by_cases hfull : run.length ≥ kMaxFrameBodyCobs
    · -- the byte does not fit any more
      have hlonger : Overflows (run ++ [byte]) := by
        unfold Overflows
        omega
      rw [if_pos hfull]
      refine ⟨.of_ready hready ?_ ?_ (hok.trans hframes) ?_, rfl⟩
      · exact (held_of_lt hlonger).symm
      · exact (decide_eq_true hlonger).symm
      · show reader.restart.overflows_dropped + 1 = _
        rw [List.countP_append, List.countP_singleton, hdropped, hoverflows]
        simp [hover, hlonger]
    · have hroom : run.length < kMaxFrameBodyCobs := Nat.not_le.mp hfull
      have hshort : ¬ Overflows (run ++ [byte]) := by
        unfold Overflows
        omega
      rw [if_neg hfull]
      refine ⟨.of_ready hready ?_ ?_ (hok.trans hframes) ?_, rfl⟩
      · rw [held_concat_of_lt byte hroom, hheld]
      · exact (decide_eq_false hshort).symm
      · show reader.restart.overflows_dropped = _
        rw [List.countP_append, List.countP_singleton, hdropped, hoverflows]
        simp [hover, hshort]

theorem Tracks.push_delimiter (h : Tracks runs run reader) :
    Tracks (runs ++ [run]) [] (reader.push 0).1 ∧
      reader.delivery 0 = if Fits kMaxFrameBodyCobs run then [run] else [] := by
  rcases restart_counters reader with ⟨hok, hdropped, hready⟩
  rcases h with ⟨hbuf, hoverflow, hframes, hoverflows⟩
  have hcount : reader.restart.overflows_dropped =
      UInt32.ofNat ((runs ++ [run] ++ [[]]).countP fun run => Overflows run) := by
    have hempty : (runs ++ [run] ++ [[]]).countP (fun run => Overflows run) =
        (runs ++ [run]).countP (fun run => Overflows run) := by
      rw [List.countP_append]
      rfl
    rw [hdropped, hoverflows, hempty]
  unfold delivery push
  rw [if_pos rfl]
  by_cases hfits : Fits kMaxFrameBodyCobs run
  · have hheld : held kMaxFrameBodyCobs run = run := if_pos hfits.2
    have hover : ¬ Overflows run := Nat.not_lt.mpr hfits.2
    have hopen : reader.restart.buf.length > 0 ∧ (!reader.restart.overflow) = true := by
      rw [hbuf, hheld, hoverflow, decide_eq_false hover]
      exact ⟨List.length_pos_of_ne_nil hfits.1, rfl⟩
    rw [if_pos hopen, if_pos hfits]
    -- the buffer is exposed until the next push, which starts afresh
    refine ⟨⟨rfl, rfl, ?_, hcount⟩, ?_⟩
    · show reader.restart.frames_ok + 1 = _
      rw [List.countP_append, List.countP_singleton, hok, hframes]
      simp [hfits]
    · show [reader.restart.buf] = _
      rw [hbuf, hheld]
  · have hclosed : ¬ (reader.restart.buf.length > 0 ∧ (!reader.restart.overflow) = true) := by
      rintro ⟨hpos, hkept⟩
      rw [hoverflow, Bool.not_eq_true', decide_eq_false_iff_not] at hkept
      have hfit : run.length ≤ kMaxFrameBodyCobs := Nat.not_lt.mp hkept
      rw [hbuf, show held kMaxFrameBodyCobs run = run from if_pos hfit] at hpos
      exact hfits ⟨List.ne_nil_of_length_pos hpos, hfit⟩
    rw [if_neg hclosed, if_neg hfits]
    refine ⟨.of_ready hready rfl rfl ?_ hcount, rfl⟩
    show reader.restart.frames_ok = _
    rw [List.countP_append, List.countP_singleton, hok, hframes]
    simp [hfits]

theorem receive_spec (stream : List UInt8) :
    Tracks (ended 0 stream) (openRun 0 stream) (receive {} stream).1 ∧
      (receive {} stream).2 = (ended 0 stream).filter fun run => Fits kMaxFrameBodyCobs run := by
  have hscan := scan_rule 0 scanStep (fun run => if Fits kMaxFrameBodyCobs run then [run] else []) Tracks
    tracks_start
    (fun hbyte h => h.push_byte hbyte) (fun h => h.push_delimiter) stream
  rw [← receive_eq_scan] at hscan
  refine ⟨hscan.1, ?_⟩
  rw [hscan.2, flatMap_fits (fun run => run), List.map_id']

end FrameReader

end HexapodVerified.Protocol
