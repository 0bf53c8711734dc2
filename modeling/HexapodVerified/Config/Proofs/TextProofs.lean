import HexapodVerified.Config.ConfigBootstrap
import HexapodVerified.Config.Proofs.SequenceProofs

/-!
# Bytes written as text

What `QwiicConfigFile` writes for a byte string it reads back as that byte string. A surface that reads as
a byte string serves the store like the byte string itself, so everything that is known about the
journal holds of the text file as well, as long as the text is the encoding of whole bytes.
-/

namespace HexapodVerified.Config

open Bytes

variable {bytes buf : List UInt8} {text : TextFile} {offset n : Nat} {card : Card}

namespace QwiicConfigFile

theorem decodePair_encodeByte (byte : UInt8) :
    decode (encodeByte byte) = [byte] := by
  have hall : ∀ n < 256, decode (encodeByte (UInt8.ofNat n)) = [UInt8.ofNat n] := by
    decide +kernel
  have hbyte := hall byte.toNat byte.toNat_lt
  rwa [UInt8.ofNat_toNat] at hbyte

theorem encode_cons (byte : UInt8) (buf : List UInt8) :
    encode (byte :: buf) = encodeByte byte ++ encode buf := List.flatMap_cons

theorem encode_append (l r : List UInt8) : encode (l ++ r) = encode l ++ encode r :=
  List.flatMap_append

theorem encode_length (buf : List UInt8) : (encode buf).length = 2 * buf.length := by
  induction buf with
  | nil => rfl
  | cons byte buf ih =>
    have hpair : (encodeByte byte).length = 2 := rfl
    rw [encode_cons, List.length_append, List.length_cons, ih, hpair]
    omega

theorem decode_encode (buf : List UInt8) : decode (encode buf) = buf := by
  induction buf with
  | nil => rfl
  | cons byte buf ih =>
    have hbyte := decodePair_encodeByte byte
    obtain ⟨c, d, hpair⟩ : ∃ c d, encodeByte byte = [c, d] := ⟨_, _, rfl⟩
    rw [hpair] at hbyte
    have hcd : decodePair c d = byte := (List.cons.inj hbyte).1
    rw [encode_cons, hpair]
    show decodePair c d :: decode (encode buf) = byte :: buf
    rw [hcd, ih]

theorem encode_take (buf : List UInt8) (n : Nat) :
    (encode buf).take (2 * n) = encode (buf.take n) := by
  induction buf generalizing n with
  | nil => rw [List.take_nil, encode, List.flatMap_nil, List.take_nil]
  | cons byte buf ih =>
    cases n with
    | zero => rfl
    | succ n =>
      have hpair : encode (byte :: buf) = encodeByte byte ++ encode buf := encode_cons byte buf
      obtain ⟨c, d, hcd⟩ : ∃ c d, encodeByte byte = [c, d] := ⟨_, _, rfl⟩
      rw [hpair, hcd, List.take_succ_cons, encode_cons, hcd, ← ih]
      rfl

theorem encode_drop (buf : List UInt8) (n : Nat) :
    (encode buf).drop (2 * n) = encode (buf.drop n) := by
  have hall := List.take_append_drop (2 * n) (encode buf)
  rw [encode_take] at hall
  conv_rhs at hall => rw [← List.take_append_drop n buf, encode_append]
  exact List.append_cancel_left hall

theorem window_encode (buf : List UInt8) (offset n : Nat) :
    window (encode buf) (offset * 2) (n * 2) = encode (window buf offset n) := by
  unfold window
  rw [Nat.mul_comm offset, Nat.mul_comm n, encode_drop, encode_take]

/-- The file holds the encoding of the byte string. -/
def Holds (text : TextFile) (bytes : List UInt8) : Prop := text.chars = encode bytes

theorem Holds.size (hholds : Holds text bytes) : size text = some bytes.length := by
  cases text with
  | none =>
    have hlen : 0 = (encode bytes).length := congrArg List.length hholds
    rw [encode_length] at hlen
    have hzero : bytes.length = 0 := by omega
    rw [hzero]
    rfl
  | some chars =>
    have hchars : chars = encode bytes := hholds
    have heven : ¬ (2 * bytes.length) % 2 ≠ 0 := by omega
    have hhalf : 2 * bytes.length / 2 = bytes.length := by omega
    unfold QwiicConfigFile.size
    dsimp only
    rw [hchars, encode_length, if_neg heven, hhalf]

/-- A read inside the file gives the bytes, whatever the chunks. -/
theorem Holds.read (hholds : Holds text bytes) (n offset : Nat) (hin : offset + n ≤ bytes.length) :
    read text offset n = some (window bytes offset n) := by
  induction n using Nat.strongRecOn generalizing offset with
  | _ n ih =>
    unfold QwiicConfigFile.read
    by_cases hzero : n = 0
    · rw [if_pos hzero, hzero]
      rfl
    · rw [if_neg hzero]
      have hchunk : kChunk = 15 := rfl
      have hread : QwiicOpenLog.readAt text (offset * 2) (min n kChunk * 2) =
          some (encode (window bytes offset (min n kChunk))) := by
        cases text with
        | none =>
          have hlen : 0 = (encode bytes).length := congrArg List.length hholds
          rw [encode_length] at hlen
          omega
        | some chars =>
          have hchars : chars = encode bytes := hholds
          have hfits : offset * 2 + min n kChunk * 2 ≤ (encode bytes).length := by
            rw [encode_length]
            omega
          show readFile chars (offset * 2) (min n kChunk * 2) = _
          rw [hchars, readFile_of_le hfits, window_encode]
      have hsplit : n = min n kChunk + (n - min n kChunk) := by omega
      dsimp only
      rw [hread]
      dsimp only
      rw [ih (n - min n kChunk) (by omega) _ (by omega), Option.map_some, decode_encode, ← window_split,
        ← hsplit]

theorem openLog_append_eq (card : Card) (text : TextFile) (data : List UInt8) :
    QwiicOpenLog.append card text data =
      (card.after data, some (text.chars ++ card.taken data), card.takesAll data) := by
  unfold QwiicOpenLog.append
  rw [appendFile_eq]

end QwiicConfigFile

theorem Card.after_append (card : Card) (l r : List UInt8) :
    card.after (l ++ r) = (card.after l).after r := by
  obtain ⟨_ | room, sync_ok⟩ := card
  · rfl
  · simp only [Card.after, Option.map_some, List.length_append, Nat.sub_sub]

theorem Card.after_after {l : List UInt8} (hfull : card.takesAll l = false) (r : List UInt8) :
    (card.after l).after r = card.after l := by
  obtain ⟨_ | room, sync_ok⟩ := card
  · exact nomatch hfull
  · have hlt : ¬ l.length ≤ room := of_decide_eq_false hfull
    have hzero : room - l.length = 0 := by omega
    simp only [Card.after, Option.map_some, hzero, Nat.zero_sub]

theorem QwiicConfigFile.append_eq (card : Card) (text : TextFile) (buf : List UInt8) (hne : buf ≠ []) :
    QwiicConfigFile.append card text buf =
      (card.after (encode buf), some (text.chars ++ card.taken (encode buf)),
        card.takesAll (encode buf)) := by
  have hlen : ¬ buf.length = 0 := fun hzero => hne (List.eq_nil_of_length_eq_zero hzero)
  unfold QwiicConfigFile.append
  rw [if_neg hlen, openLog_append_eq]
  have hsplit : encode buf = encode (buf.take kChunk) ++ encode (buf.drop kChunk) := by
    rw [← encode_append, List.take_append_drop]
  rw [hsplit, card.after_append, card.taken_append, card.takesAll_append, ← List.append_assoc]
  cases hall : card.takesAll (encode (buf.take kChunk)) with
  | false =>
    rw [card.after_after hall, card.taken_after hall, List.append_nil]
    rfl
  | true =>
    by_cases hrest : buf.drop kChunk = []
    · have hnil : encode [] = [] := rfl
      rw [hrest, hnil, Card.after_nil, Card.taken_nil, Card.takesAll_nil, List.append_nil]
      unfold QwiicConfigFile.append
      rfl
    · have hshort : (buf.drop kChunk).length < buf.length := by
        have hchunk : kChunk = 15 := rfl
        rw [List.length_drop]
        omega
      have hnext := QwiicConfigFile.append_eq (card.after (encode (buf.take kChunk)))
        (some (text.chars ++ card.taken (encode (buf.take kChunk)))) (buf.drop kChunk) hrest
      exact hnext
termination_by buf.length
decreasing_by exact hshort

/-- The file `x` has the size of the byte string, and reads inside it give its windows. -/
structure ConfigFile.Reads {φ : Type} (f : ConfigFile φ) (x : φ) (bytes : List UInt8) : Prop where
  size : f.size x = some bytes.length
  read : ∀ n offset, offset + n ≤ bytes.length → f.read x offset n = some (window bytes offset n)

theorem QwiicConfigFile.Holds.reads (hholds : QwiicConfigFile.Holds text bytes) :
    QwiicConfigFile.file.Reads text bytes := ⟨hholds.size, hholds.read⟩

namespace ConfigFile

variable {φ : Type} {f : ConfigFile φ} {x : φ}

theorem Reads.readFile (hreads : f.Reads x bytes) (hin : offset + n ≤ bytes.length) :
    f.read x offset n = Config.readFile bytes offset n := by
  rw [hreads.read n offset hin, readFile_of_le hin]

theorem Reads.payloadCrc (hreads : f.Reads x bytes) (remaining offset : Nat) (crc : UInt16)
    (hin : offset + remaining ≤ bytes.length) :
    f.payloadCrc x offset remaining crc = Config.payloadCrc bytes offset remaining crc := by
  induction remaining using Nat.strongRecOn generalizing offset crc with
  | _ remaining ih =>
    unfold ConfigFile.payloadCrc Config.payloadCrc
    by_cases hzero : remaining = 0
    · rw [if_pos hzero, if_pos hzero]
    · rw [if_neg hzero, if_neg hzero]
      have hchunk : offset + min remaining 64 ≤ bytes.length := by omega
      dsimp only
      rw [hreads.readFile hchunk, readFile_of_le hchunk]
      exact ih _ (by omega) _ _ (by omega)

theorem Reads.scanLoop (hreads : f.Reads x bytes) (offset : Nat) (raw? : Option (List UInt8))
    (status : StoreStatus) :
    f.scanLoop x bytes.length offset raw? status = Config.scanLoop bytes offset raw? status := by
  have := headerSize_trailerSize
  induction hfuel : bytes.length - offset using Nat.strongRecOn generalizing offset raw? status with
  | _ fuel ih =>
    unfold ConfigFile.scanLoop Config.scanLoop
    by_cases hend : bytes.length - offset < kHeaderSize + kTrailerSize
    · rw [if_pos hend, if_pos hend]
    · rw [if_neg hend, if_neg hend, hreads.readFile (by omega)]
      cases raw?.or (Config.readFile bytes offset kHeaderSize) with
      | none => rfl
      | some raw =>
        dsimp only
        cases headerValid raw with
        | false =>
          rw [hreads.readFile (by omega)]
          cases Config.readFile bytes (offset + kHeaderSize) 1 with
          | none => rfl
          | some byte => exact ih _ (by omega) _ _ _ rfl
        | true =>
          rw [Bool.not_true, if_neg Bool.false_ne_true, if_neg Bool.false_ne_true]
          by_cases hfits : recordEnd offset (deserializeHeader raw) > bytes.length
          · rw [if_pos hfits, if_pos hfits]
          · rw [if_neg hfits, if_neg hfits]
            unfold recordEnd at hfits
            have hvalid : f.payloadValid x (offset + kHeaderSize) (deserializeHeader raw) =
                Config.payloadValid bytes (offset + kHeaderSize) (deserializeHeader raw) := by
              unfold ConfigFile.payloadValid Config.payloadValid
              rw [hreads.payloadCrc _ _ _ (by omega)]
            rw [hvalid, hreads.readFile (by omega)]
            cases Config.readFile bytes
                (offset + kHeaderSize + (deserializeHeader raw).length.toNat) kTrailerSize with
            | none => rfl
            | some trailer =>
              have hnext : bytes.length - recordEnd offset (deserializeHeader raw) < fuel := by
                unfold recordEnd
                omega
              exact ih _ hnext _ _ _ rfl

theorem Reads.scan (hreads : f.Reads x bytes) : f.scan x = Config.scan bytes := by
  unfold ConfigFile.scan Config.scan
  rw [hreads.size]
  dsimp only
  rw [hreads.scanLoop]

end ConfigFile

end HexapodVerified.Config
