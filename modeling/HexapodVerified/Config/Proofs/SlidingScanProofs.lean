import HexapodVerified.Config.Proofs.ScanProofs

/-!
# The sliding window

While it is valid, the window holds the header bytes at the current offset. So a pass does what the plain
scan does at that offset, it reads inside the file, and the offset grows.
-/

namespace HexapodVerified.Config

open HexapodVerified.Protocol Bytes Transition

variable {file : List UInt8}

/-- The file has a size that `QwiicConfigFile::size` can report: half of a 32-bit number of characters. -/
def Reportable (file : List UInt8) : Prop :=
  ∃ encoded_size : UInt32, file.length = (encoded_size / 2).toNat

theorem Reportable.length_lt (h : Reportable file) : file.length < 2147483648 := by
  rcases h with ⟨encoded_size, hlength⟩
  have hbound := encoded_size.toNat_lt
  rw [UInt32.toNat_div, show (2 : UInt32).toNat = 2 from rfl] at hlength
  omega

/-- `status.file_size`. -/
def fileSize (file : List UInt8) : UInt32 := UInt32.ofNat file.length

theorem fileSize_toNat (h : file.length < 2147483648) : (fileSize file).toNat = file.length :=
  UInt32.toNat_ofNat_of_lt' (by
    rw [UInt32.size]
    omega)

/-- Offsets of the source that stay below the file's bound do not wrap. -/
theorem add_toNat {a b : UInt32} (h : a.toNat + b.toNat < 4294967296) :
    (a + b).toNat = a.toNat + b.toNat := by
  rw [UInt32.toNat_add, Nat.mod_eq_of_lt h]

section Plain

variable {offset : Nat} {status : StoreStatus}

theorem plainLoop_stop (h : file.length < offset + kHeaderSize + kTrailerSize) :
    plainLoop file offset status = status := by
  have := headerSize_trailerSize
  unfold plainLoop
  rw [if_pos (by omega)]

theorem plainLoop_skip (h : offset + kHeaderSize + kTrailerSize ≤ file.length)
    (hinvalid : headerValid (window file offset kHeaderSize) = false) :
    plainLoop file offset status = plainLoop file (offset + 1) status := by
  conv_lhs => unfold plainLoop
  rw [if_neg (by omega)]
  dsimp only
  rw [hinvalid]
  rfl

theorem plainLoop_torn (hheader : HeaderAt file offset) (htorn : file.length < endAt file offset) :
    plainLoop file offset status = status := by
  unfold plainLoop
  split
  · rfl
  · dsimp only
    rw [hheader.2, Bool.not_true, if_neg Bool.false_ne_true]
    exact if_pos htorn

theorem plainLoop_record (hheader : HeaderAt file offset) (hfits : endAt file offset ≤ file.length) :
    plainLoop file offset status = plainLoop file (endAt file offset)
      (if completeAt file offset then status.note (headerAt file offset) (offset + kHeaderSize)
        else status) := by
  have hroom := lt_endAt file offset
  conv_lhs => unfold plainLoop
  rw [if_neg (by omega)]
  dsimp only
  rw [hheader.2, Bool.not_true, if_neg Bool.false_ne_true, completeAt_eq hfits]
  exact if_neg (Nat.not_lt.mpr hfits)

theorem scanLoop_eq_plainLoop (file : List UInt8) (offset : Nat) (status : StoreStatus) :
    scanLoop file offset none status = some (plainLoop file offset status) := by
  induction hn : file.length - offset using Nat.strongRecOn generalizing offset status with
  | _ n ih =>
    by_cases hroom : offset + kHeaderSize + kTrailerSize ≤ file.length
    · by_cases hheader : HeaderAt file offset
      · by_cases hfits : endAt file offset ≤ file.length
        · have hgrows := lt_endAt file offset
          have := headerSize_trailerSize
          rw [scanLoop_record hheader hfits, plainLoop_record hheader hfits]
          exact ih _ (by omega) _ _ rfl
        · rw [scanLoop_torn hroom hheader (Nat.not_le.mp hfits),
            plainLoop_torn hheader (Nat.not_le.mp hfits)]
      · have hinvalid : headerValid (window file offset kHeaderSize) = false :=
          eq_false_of_ne_true fun hvalid => hheader ⟨by omega, hvalid⟩
        have := headerSize_trailerSize
        rw [scanLoop_skip hroom hheader, plainLoop_skip hroom hinvalid]
        exact ih _ (by omega) _ _ rfl
    · rw [scanLoop_stop (Nat.not_le.mp hroom), plainLoop_stop (Nat.not_le.mp hroom)]

theorem scan_eq_plainScan (file : List UInt8) : scan file = some (plainScan file) := by
  unfold scan plainScan
  rw [scanLoop_eq_plainLoop]
  rfl

end Plain

def ReadCall.Inside (file : List UInt8) (call : ReadCall) : Prop :=
  call.offset.toNat + call.len ≤ file.length

theorem ReadCall.Inside.issue {call : ReadCall} (h : call.Inside file) :
    call.issue file = some (window file call.offset.toNat call.len) :=
  readFile_of_le h

theorem payloadPass_spec (hsize : file.length < 2147483648) (payload_offset : UInt32)
    (remaining : UInt16) (off : UInt32) (crc : UInt16)
    (hfits : payload_offset.toNat + off.toNat + remaining.toNat ≤ file.length)
    (hoff : off.toNat + remaining.toNat < 65536) :
    (payloadPass file payload_offset remaining off crc).2 =
      some (crc16Update crc (window file (payload_offset.toNat + off.toNat) remaining.toNat)) ∧
    ∀ call ∈ (payloadPass file payload_offset remaining off crc).1, call.Inside file := by
  induction hn : remaining.toNat using Nat.strongRecOn generalizing remaining off crc with
  | _ n ih =>
    subst hn
    unfold payloadPass
    by_cases hzero : remaining.toNat = 0
    · rw [if_pos hzero, hzero]
      exact ⟨rfl, nofun⟩
    · rw [if_neg hzero]
      have hlen := chunkLen_toNat remaining
      have hleft := sub_chunkLen_toNat remaining
      have hnext : (off + (chunkLen remaining).toUInt32).toUInt16.toUInt32.toNat =
          off.toNat + min remaining.toNat 64 := by
        have hadd : (off + (chunkLen remaining).toUInt32).toNat =
            off.toNat + min remaining.toNat 64 := by
          rw [add_toNat, UInt16.toNat_toUInt32, hlen]
          rw [UInt16.toNat_toUInt32, hlen]
          omega
        rw [UInt16.toNat_toUInt32, UInt32.toNat_toUInt16, hadd, Nat.mod_eq_of_lt (by omega)]
      have hcall : (payload_offset + off).toNat = payload_offset.toNat + off.toNat :=
        add_toNat (by omega)
      have hinside : (⟨payload_offset + off, (chunkLen remaining).toNat⟩ : ReadCall).Inside file := by
        show (payload_offset + off).toNat + (chunkLen remaining).toNat ≤ file.length
        omega
      dsimp only
      rw [hinside.issue]
      rcases ih (remaining - chunkLen remaining).toNat (by omega) (remaining - chunkLen remaining)
        (off + (chunkLen remaining).toUInt32).toUInt16.toUInt32
        (crc16Update crc (window file (payload_offset + off).toNat (chunkLen remaining).toNat))
        (by omega) (by omega) rfl with ⟨hcrc, hcalls⟩
      constructor
      · rw [hcrc, ← crc16Update_append, hcall, hlen, hleft, hnext, ← Nat.add_assoc, ← window_split]
        congr 3
        omega
      · intro call hmem
        rcases List.mem_cons.mp hmem with rfl | hlater
        · exact hinside
        · exact hcalls call hlater

namespace ScanPass

variable {p next : ScanPass}

/-- The offset lies in the file, and a valid window holds the bytes there. -/
structure Sound (file : List UInt8) (p : ScanPass) : Prop where
  offset_le : p.offset.toNat ≤ file.length
  raw_eq : p.window_valid = true →
    p.offset.toNat + 16 ≤ file.length ∧ p.raw = window file p.offset.toNat 16

/-- The end of a pass is the one of the plain scan at its offset. -/
def Follows (file : List UInt8) (p : ScanPass) : PassEnd → Prop
  | .again next => Sound file next ∧ p.offset.toNat < next.offset.toNat ∧
      plainLoop file p.offset.toNat p.status = plainLoop file next.offset.toNat next.status
  | .done status => plainLoop file p.offset.toNat p.status = status
  | .failed => False

theorem Sound.header (hp : p.Sound file) (hroom : p.offset.toNat + 24 ≤ file.length) :
    (p.header file).2 = some (window file p.offset.toNat 16) ∧
      ∀ call ∈ (p.header file).1, call.Inside file := by
  unfold ScanPass.header
  by_cases hvalid : p.window_valid = true
  · rw [if_pos hvalid, (hp.raw_eq hvalid).2]
    exact ⟨rfl, nofun⟩
  · have hinside : (⟨p.offset, kHeaderSize⟩ : ReadCall).Inside file := by
      show p.offset.toNat + 16 ≤ file.length
      omega
    rw [if_neg hvalid]
    refine ⟨hinside.issue, fun call hmem => ?_⟩
    rw [List.mem_singleton.mp hmem]
    exact hinside

theorem slide_spec (hsize : file.length < 2147483648) (hroom : p.offset.toNat + 24 ≤ file.length)
    (hinvalid : headerValid (window file p.offset.toNat 16) = false) :
    Follows file p (p.slide file (window file p.offset.toNat 16)).2 ∧
      ∀ call ∈ (p.slide file (window file p.offset.toNat 16)).1, call.Inside file := by
  have hbehind : (p.offset + 16).toNat = p.offset.toNat + 16 := add_toNat (by
    rw [show (16 : UInt32).toNat = 16 from rfl]
    omega)
  have hnext : (p.offset + 1).toNat = p.offset.toNat + 1 := add_toNat (by
    rw [show (1 : UInt32).toNat = 1 from rfl]
    omega)
  have hinside : (⟨p.offset + 16, 1⟩ : ReadCall).Inside file := by
    show (p.offset + 16).toNat + 1 ≤ file.length
    omega
  unfold slide
  dsimp only
  rw [hinside.issue]
  refine ⟨⟨⟨?_, fun _ => ⟨?_, ?_⟩⟩, ?_, ?_⟩, fun call hmem => ?_⟩
  · show (p.offset + 1).toNat ≤ file.length
    omega
  · show (p.offset + 1).toNat + 16 ≤ file.length
    omega
  · show _ = window file (p.offset + 1).toNat 16
    rw [hbehind, hnext, window_slide (by omega) (by decide)]
  · show p.offset.toNat < (p.offset + 1).toNat
    omega
  · show _ = plainLoop file (p.offset + 1).toNat p.status
    rw [hnext]
    exact plainLoop_skip hroom hinvalid
  · rw [List.mem_singleton.mp hmem]
    exact hinside

/-- The 32-bit sums of a record do not wrap around. -/
theorem record_sums (hsize : file.length < 2147483648) (hroom : p.offset.toNat + 16 ≤ file.length) :
    (p.offset + 16).toNat = p.offset.toNat + 16 ∧
    (p.offset + 16 + (headerAt file p.offset.toNat).length.toUInt32).toNat =
      p.offset.toNat + 16 + (headerAt file p.offset.toNat).length.toNat ∧
    (p.offset + 16 + (headerAt file p.offset.toNat).length.toUInt32 + 8).toNat =
      endAt file p.offset.toNat := by
  have hlength := (headerAt file p.offset.toNat).length.toNat_lt
  have hpayload : (p.offset + 16).toNat = p.offset.toNat + 16 := add_toNat (by
    rw [show (16 : UInt32).toNat = 16 from rfl]
    omega)
  have htrailer : (p.offset + 16 + (headerAt file p.offset.toNat).length.toUInt32).toNat =
      p.offset.toNat + 16 + (headerAt file p.offset.toNat).length.toNat := by
    rw [add_toNat, hpayload, UInt16.toNat_toUInt32]
    rw [hpayload, UInt16.toNat_toUInt32]
    omega
  refine ⟨hpayload, htrailer, ?_⟩
  rw [add_toNat, htrailer]
  · rfl
  · rw [htrailer, show (8 : UInt32).toNat = 8 from rfl]
    omega

theorem record_spec (hsize : file.length < 2147483648) (hheader : HeaderAt file p.offset.toNat) :
    Follows file p (p.record file (fileSize file) (window file p.offset.toNat 16)).2 ∧
      ∀ call ∈ (p.record file (fileSize file) (window file p.offset.toNat 16)).1,
        call.Inside file := by
  have hroom : p.offset.toNat + 16 ≤ file.length := hheader.1
  have hlength := (headerAt file p.offset.toNat).length.toNat_lt
  rcases record_sums hsize hroom with ⟨hpayload, htrailer, hend⟩
  unfold record
  rw [show deserializeHeader (window file p.offset.toNat 16) = headerAt file p.offset.toNat from rfl]
  by_cases htorn : p.offset + 16 + (headerAt file p.offset.toNat).length.toUInt32 + 8 > fileSize file
  · rw [if_pos htorn]
    refine ⟨plainLoop_torn hheader ?_, nofun⟩
    have hlt := UInt32.lt_iff_toNat_lt.mp htorn
    rwa [hend, fileSize_toNat hsize] at hlt
  · have hfits : endAt file p.offset.toNat ≤ file.length := by
      have hle := UInt32.le_iff_toNat_le.mp (UInt32.not_lt.mp htorn)
      rwa [hend, fileSize_toNat hsize] at hle
    have hends : p.offset.toNat + 16 + (headerAt file p.offset.toNat).length.toNat + 8 =
      endAt file p.offset.toNat := rfl
    rcases payloadPass_spec hsize (p.offset + 16)
      (headerAt file p.offset.toNat).length 0 kCrc16Init
      (by rw [hpayload, show (0 : UInt32).toNat = 0 from rfl]; omega)
      (by rw [show (0 : UInt32).toNat = 0 from rfl]; omega) with ⟨hcrc, hcalls⟩
    have hinside : (⟨p.offset + 16 + (headerAt file p.offset.toNat).length.toUInt32,
        kTrailerSize⟩ : ReadCall).Inside file := by
      show (p.offset + 16 + (headerAt file p.offset.toNat).length.toUInt32).toNat + 8 ≤ file.length
      omega
    rw [if_neg htorn]
    generalize payloadPass file (p.offset + 16) (headerAt file p.offset.toNat).length 0 kCrc16Init =
      payload at hcrc hcalls
    rcases payload with ⟨calls, crc⟩
    dsimp only at hcrc hcalls ⊢
    rw [hinside.issue]
    refine ⟨⟨⟨?_, nofun⟩, ?_, ?_⟩, fun call hmem => ?_⟩
    · exact Nat.le_trans (Nat.le_of_eq hend) hfits
    · have hgrows := lt_endAt file p.offset.toNat
      show p.offset.toNat < _
      rw [hend]
      omega
    · show _ = plainLoop file _ _
      rw [plainLoop_record hheader hfits, completeAt_eq hfits, hend, hcrc, htrailer, hpayload]
      rfl
    · rcases List.mem_append.mp hmem with hpay | hlast
      · exact hcalls call hpay
      · rw [List.mem_singleton.mp hlast]
        exact hinside

theorem Sound.pass (hsize : file.length < 2147483648) (hp : p.Sound file) :
    Follows file p (p.pass file (fileSize file)).2 ∧
      ∀ call ∈ (p.pass file (fileSize file)).1, call.Inside file := by
  have hle : p.offset ≤ fileSize file := by
    rw [UInt32.le_iff_toNat_le, fileSize_toNat hsize]
    exact hp.offset_le
  have hleft : (fileSize file - p.offset).toNat = file.length - p.offset.toNat := by
    rw [UInt32.toNat_sub_of_le _ _ hle, fileSize_toNat hsize]
  unfold ScanPass.pass
  by_cases hstop : fileSize file - p.offset < 24
  · have hshort := UInt32.lt_iff_toNat_lt.mp hstop
    rw [hleft, show (24 : UInt32).toNat = 24 from rfl] at hshort
    rw [if_pos hstop]
    refine ⟨plainLoop_stop ?_, nofun⟩
    show file.length < p.offset.toNat + 16 + 8
    omega
  · have hroom : p.offset.toNat + 24 ≤ file.length := by
      have hlong := UInt32.le_iff_toNat_le.mp (UInt32.not_lt.mp hstop)
      rw [hleft, show (24 : UInt32).toNat = 24 from rfl] at hlong
      omega
    rw [if_neg hstop]
    rcases hp.header hroom with ⟨hraw, hcalls⟩
    generalize p.header file = header at hraw hcalls
    rcases header with ⟨calls, raw⟩
    subst hraw
    dsimp only
    have hbranch : ∀ out : List ReadCall × PassEnd,
        Follows file p out.2 ∧ (∀ call ∈ out.1, call.Inside file) →
        Follows file p out.2 ∧ ∀ call ∈ calls ++ out.1, call.Inside file := by
      rintro out ⟨hfollows, hlater⟩
      refine ⟨hfollows, fun call hmem => ?_⟩
      rcases List.mem_append.mp hmem with hearly | hlate
      · exact hcalls call hearly
      · exact hlater call hlate
    by_cases hvalid : headerValid (window file p.offset.toNat 16) = true
    · rw [hvalid, Bool.not_true, if_neg Bool.false_ne_true]
      exact hbranch _ (record_spec hsize ⟨by
        show p.offset.toNat + 16 ≤ file.length
        omega, hvalid⟩)
    · rw [eq_false_of_ne_true hvalid, Bool.not_false, if_pos rfl]
      exact hbranch _ (slide_spec hsize hroom (eq_false_of_ne_true hvalid))

theorem sound_start (file : List UInt8) : Sound file {} := ⟨Nat.zero_le _, nofun⟩

theorem sound_of_run (hsize : file.length < 2147483648) {h : List (Event ScanPass (List ReadCall))}
    (run : Run (Next file (fileSize file)) {} h p) : p.Sound file := by
  refine Run.invariant (Sound file) (sound_start file) ?_ run
  intro s calls t hs hnext
  have hfollows := (hs.pass hsize).1
  rw [show (s.pass file (fileSize file)).2 = .again t from congrArg Prod.snd hnext] at hfollows
  exact hfollows.1

theorem Sound.scan (hsize : file.length < 2147483648) (hp : p.Sound file) {fuel : Nat}
    (hfuel : file.length < p.offset.toNat + fuel) :
    p.scan file (fileSize file) fuel =
      some (some ((plainLoop file p.offset.toNat p.status).sized file.length)) := by
  induction fuel generalizing p with
  | zero =>
    have := hp.offset_le
    omega
  | succ fuel ih =>
    have hfollows := (hp.pass hsize).1
    unfold ScanPass.scan
    rcases hresult : (p.pass file (fileSize file)).2 with next | status | _
    · rw [hresult] at hfollows
      rcases hfollows with ⟨hnext, hgrows, hsame⟩
      dsimp only
      rw [ih hnext (by omega), hsame]
    · rw [hresult] at hfollows
      rw [fileSize_toNat hsize, ← show plainLoop file p.offset.toNat p.status = status from hfollows]
    · rw [hresult] at hfollows
      exact hfollows.elim

end ScanPass

open ScanPass in
/-- **The sliding window scans like the plain scan.** On every file whose size can be reported, the loop
ends within as many passes as the file has bytes, and one; what it returns is what the plain scan returns.
Before every pass the offset is at most the size of the file, the pass reads inside the file, and a pass that
is followed by another one leaves a larger offset. -/
theorem sliding_scan (hfile : Reportable file) :
    (∀ fuel, file.length < fuel →
      ScanPass.scan file (fileSize file) fuel {} = some (some (plainScan file))) ∧
    scan file = some (plainScan file) ∧
    ∀ h p, Run (Next file (fileSize file)) {} h p →
      p.offset ≤ fileSize file ∧
      (∀ call ∈ (p.pass file (fileSize file)).1, call.offset.toNat + call.len ≤ file.length) ∧
      ∀ calls next, Next file (fileSize file) p calls next → p.offset < next.offset := by
  have hsize := hfile.length_lt
  refine ⟨fun fuel hfuel => ?_, scan_eq_plainScan file, fun h p run => ?_⟩
  · refine (sound_start file).scan hsize ?_
    show file.length < 0 + fuel
    omega
  · have hp := sound_of_run hsize run
    rcases hp.pass hsize with ⟨hfollows, hcalls⟩
    refine ⟨?_, hcalls, ?_⟩
    · rw [UInt32.le_iff_toNat_le, fileSize_toNat hsize]
      exact hp.offset_le
    · intro calls next hnext
      rw [show (p.pass file (fileSize file)).2 = .again next from congrArg Prod.snd hnext] at hfollows
      exact UInt32.lt_iff_toNat_lt.mpr hfollows.2.1

/-- A foreign byte, and a record behind it. -/
def foreignPrefix : List UInt8 := 0xFF :: recordBytes 1 [7]

theorem sliding_scan_foreignPrefix :
    ScanPass.scan foreignPrefix (fileSize foreignPrefix) 27 {} = some (some (plainScan foreignPrefix)) :=
  (sliding_scan ⟨52, by decide⟩).1 27 (by decide)

end HexapodVerified.Config
