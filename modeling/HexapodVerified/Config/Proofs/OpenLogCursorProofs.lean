import HexapodVerified.Config.QwiicOpenLog
import HexapodVerified.Lib.Readers
import Mathlib.Tactic.Ring

/-!
# The cursor of the OpenLog driver

While a file is open for reading, what the driver has cached and what the device still hands out go on with the
file from where the caller stands. A read that fails closes the file, and so does an append that opens another;
what is read again begins anew. The one thing that can come between is a command that moves the device's cursor
and leaves the file open.
-/

namespace HexapodVerified.Config

open Bytes Loops Transition ReadAhead

def Register.Query (register : Register) : Prop :=
  register = .fileSize ∨ register = .startPosition ∨ register = .readFile

/-- Every command of a read that the driver takes for accepted has reached the device. -/
def Reliable (around : Surroundings) : Prop :=
  ∀ n (register : Register), register.Query →
    (around.samd21 || (around.fates n).acknowledged) = true → (around.fates n).arrives register = true

/-- Files are only ever created and appended to. -/
def Grows (files files' : List UInt8 → Option (List UInt8)) : Prop :=
  ∀ name contents, files name = some contents → ∃ more, files' name = some (contents ++ more)

theorem Grows.refl (files : List UInt8 → Option (List UInt8)) : Grows files files :=
  fun _ contents h => ⟨[], by rw [List.append_nil]; exact h⟩

theorem Grows.trans {files files' files'' : List UInt8 → Option (List UInt8)} (h : Grows files files')
    (h' : Grows files' files'') : Grows files files'' := by
  intro name contents hfile
  rcases h name contents hfile with ⟨more, hmore⟩
  rcases h' name _ hmore with ⟨rest, hrest⟩
  exact ⟨more ++ rest, by rw [hrest, List.append_assoc]⟩

theorem grows_setFile (d : Device) (name data : List UInt8) :
    Grows d.files (d.setFile name ((d.files name).getD [] ++ data)).files := by
  intro other contents hfile
  unfold Device.setFile
  dsimp only
  by_cases hname : other = name
  · subst hname
    rw [Function.update_self, hfile]
    exact ⟨data, rfl⟩
  · rw [Function.update_of_ne hname, hfile]
    exact ⟨[], by rw [List.append_nil]⟩

theorem grows_execute (d : Device) (fate : Fate) (register : Register) (data : List UInt8) :
    Grows d.files (d.execute fate register data).files := by
  cases register with
  | openFile =>
    unfold Device.execute
    cases hfile : d.files data with
    | some contents => exact .refl _
    | none =>
      have hgrows := grows_setFile d data []
      rw [hfile] at hgrows
      exact hgrows
  | writeFile =>
    unfold Device.execute
    cases d.opened with
    | some name => exact grows_setFile d name data
    | none => exact .refl _
  | _ => exact .refl _

namespace OpenLog

variable (around : Surroundings) {o : OpenLog} {name : List UInt8} {snap : List UInt8}

theorem grows_command (bus : Bus) (register : Register) (data : List UInt8) :
    Grows bus.device.files (command around bus register data).1.device.files := by
  unfold command
  split_ifs
  · exact .refl _
  · dsimp only
    split_ifs
    · exact grows_execute _ _ _ _
    · exact .refl _

theorem command_query {around : Surroundings} (hreliable : Reliable around) (bus : Bus) {register : Register}
    (hquery : register.Query) (data : List UInt8) (hok : (command around bus register data).2 = true) :
    (command around bus register data).1.device =
      bus.device.execute (around.fates bus.now) register data := by
  unfold command at hok ⊢
  split_ifs at hok ⊢ with hlen
  dsimp only at hok ⊢
  rw [if_pos (hreliable bus.now register hquery hok)]

theorem busRead_files (bus : Bus) (data : List UInt8) (len : Nat) :
    (busRead around bus data len).1.device.files = bus.device.files := by
  unfold busRead
  dsimp only
  split_ifs
  · rfl
  · rfl

theorem busRead_ok (bus : Bus) (data : List UInt8) (len : Nat)
    (hok : (busRead around bus data len).2.2 = true) :
    (busRead around bus data len).1.device.response = bus.device.response.drop len ∧
      (len ≤ bus.device.response.length →
        (busRead around bus data len).2.1 = bus.device.response.take len ++ data.drop len) := by
  unfold busRead at hok ⊢
  dsimp only at hok ⊢
  split_ifs at hok ⊢
  refine ⟨rfl, fun hlen => ?_⟩
  rw [List.take_append_of_le_length hlen]

theorem busRead_length (bus : Bus) {data : List UInt8} {len : Nat} (hlen : len ≤ data.length) :
    (busRead around bus data len).2.1.length = data.length := by
  unfold busRead
  dsimp only
  split_ifs
  · simp only [List.length_append, List.length_take, List.length_drop, List.length_replicate]
    omega
  · simp only [List.length_append, List.length_take, List.length_drop, List.length_replicate]
    omega

theorem size_of_sizeBytes (size : UInt32) (rest : List UInt8) :
    (((Device.sizeBytes size ++ rest).getD 0 0).toUInt32 <<< 24) |||
      (((Device.sizeBytes size ++ rest).getD 1 0).toUInt32 <<< 16) |||
      (((Device.sizeBytes size ++ rest).getD 2 0).toUInt32 <<< 8) |||
      ((Device.sizeBytes size ++ rest).getD 3 0).toUInt32 = size := by
  have hget : size.toUInt8.toUInt32 ||| ((size >>> 8).toUInt8.toUInt32 <<< 8) |||
      ((size >>> 16).toUInt8.toUInt32 <<< 16) ||| ((size >>> 24).toUInt8.toUInt32 <<< 24) = size :=
    getU32_putU32_self size
  show ((size >>> 24).toUInt8.toUInt32 <<< 24) ||| ((size >>> 16).toUInt8.toUInt32 <<< 16) |||
    ((size >>> 8).toUInt8.toUInt32 <<< 8) ||| size.toUInt8.toUInt32 = size
  have hreverse : ∀ a b c d : UInt32, d ||| c ||| b ||| a = a ||| b ||| c ||| d := by
    intro a b c d
    rw [UInt32.or_comm _ a, UInt32.or_comm _ b, UInt32.or_comm d c, UInt32.or_assoc, UInt32.or_assoc]
  exact (hreverse _ _ _ _).trans hget

/-! ## The cache -/

def pending (o : OpenLog) : List UInt8 :=
  window o.read_cache o.read_cache_pos.toNat (o.read_cache_len.toNat - o.read_cache_pos.toNat)

/-- The cache is an array of 32 bytes, and not more of it is used. -/
structure Fits (o : OpenLog) : Prop where
  cache : o.read_cache.length = 32
  len : o.read_cache_len.toNat ≤ 32

/-- A file is being read: `snap` is what it held when it was opened, and the caller has come to
`read_client_offset` in it. -/
structure Reading (snap : List UInt8) (o : OpenLog) : Prop where
  file : ∃ more, o.bus.device.files o.read_file = some (snap ++ more)
  size : snap.length = o.read_file_size.toNat
  pos : o.read_cache_pos.toNat ≤ o.read_cache_len.toNat
  source : o.read_source_offset.toNat =
    o.read_client_offset.toNat + (o.read_cache_len.toNat - o.read_cache_pos.toNat)
  ahead : Ahead snap o.read_client_offset.toNat o.pending o.bus.device.response

/-- The steps of a read leave the names and the files alone. -/
structure Frame (o o' : OpenLog) : Prop where
  append_file : o'.append_file = o.append_file
  read_file : o'.read_file = o.read_file
  files : o'.bus.device.files = o.bus.device.files
  fits : Fits o → Fits o'

theorem Frame.refl (o : OpenLog) : Frame o o := ⟨rfl, rfl, rfl, fun h => h⟩

theorem Frame.trans {o o' o'' : OpenLog} (h : Frame o o') (h' : Frame o' o'') : Frame o o'' :=
  ⟨h'.append_file.trans h.append_file, h'.read_file.trans h.read_file, h'.files.trans h.files,
    fun hfits => h'.fits (h.fits hfits)⟩

theorem pending_length (hfits : Fits o) :
    o.pending.length = o.read_cache_len.toNat - o.read_cache_pos.toNat := by
  rcases hfits with ⟨hcache, hlen⟩
  unfold pending window
  rw [List.length_take, List.length_drop]
  omega

theorem refill_len (remaining : UInt32) (hpos : 0 < remaining.toNat) :
    (if remaining < 32 then remaining.toUInt8 else 32).toNat = min remaining.toNat 32 ∧
      0 < min remaining.toNat 32 := by
  refine ⟨?_, by omega⟩
  split_ifs with hless
  · have hlt : remaining.toNat < 32 := UInt32.lt_iff_toNat_lt.mp hless
    rw [UInt32.toNat_toUInt8]
    omega
  · have hge : 32 ≤ remaining.toNat := UInt32.le_iff_toNat_le.mp (UInt32.not_lt.mp hless)
    rw [Nat.min_eq_right hge]
    rfl

theorem fillReadCache_frame (o : OpenLog) : Frame o (o.fillReadCache around).1 := by
  unfold fillReadCache
  split_ifs with hend
  · exact .refl o
  · have hpos : 0 < (o.read_file_size - o.read_source_offset).toNat := by
      have hlt := UInt32.lt_iff_toNat_lt.mp (UInt32.not_le.mp hend)
      rw [UInt32.toNat_sub_of_le _ _ (UInt32.le_of_lt (UInt32.not_le.mp hend))]
      omega
    rcases refill_len _ hpos with ⟨hlen, -⟩
    dsimp only
    generalize (if o.read_file_size - o.read_source_offset < 32 then
      (o.read_file_size - o.read_source_offset).toUInt8 else 32) = len at hlen ⊢
    have hfits : Fits o → (busRead around o.bus o.read_cache len.toNat).2.1.length = 32 ∧ len.toNat ≤ 32 := by
      rintro ⟨hcache, -⟩
      have hshort : len.toNat ≤ o.read_cache.length := by omega
      exact ⟨(busRead_length around o.bus hshort).trans hcache, by omega⟩
    have hfiles := busRead_files around o.bus o.read_cache len.toNat
    split_ifs
    · exact ⟨rfl, rfl, hfiles, fun h => ⟨(hfits h).1, (hfits h).2⟩⟩
    · exact ⟨rfl, rfl, hfiles, fun h => ⟨(hfits h).1, (hfits h).2⟩⟩

theorem fillReadCache_ok (hok : (o.fillReadCache around).2 = true) :
    (o.fillReadCache around).1.read_client_offset = o.read_client_offset ∧
    (o.fillReadCache around).1.read_cache_pos.toNat < (o.fillReadCache around).1.read_cache_len.toNat ∧
    ∀ snap, Fits o → o.read_cache_len ≤ o.read_cache_pos → Reading snap o →
      Reading snap (o.fillReadCache around).1 := by
  unfold fillReadCache at hok ⊢
  split_ifs at hok ⊢ with hend
  have hlt := UInt32.lt_iff_toNat_lt.mp (UInt32.not_le.mp hend)
  have hremaining := UInt32.toNat_sub_of_le _ _ (UInt32.le_of_lt (UInt32.not_le.mp hend))
  rcases refill_len (o.read_file_size - o.read_source_offset) (by omega) with ⟨hlen, hsome⟩
  dsimp only at hok ⊢
  generalize (if o.read_file_size - o.read_source_offset < 32 then
    (o.read_file_size - o.read_source_offset).toUInt8 else 32) = len at hlen hok ⊢
  split_ifs at hok ⊢ with hread
  have hread' : (busRead around o.bus o.read_cache len.toNat).2.2 = true := by simpa using hread
  rcases busRead_ok around _ _ _ hread' with ⟨hresponse, hdata⟩
  have hzero : (0 : UInt8).toNat = 0 := rfl
  have hsome' : 0 < len.toNat := by omega
  refine ⟨rfl, hsome', fun snap hfits hempty h => ?_⟩
  have hpos := UInt8.le_iff_toNat_le.mp hempty
  have hahead : Ahead snap o.read_client_offset.toNat [] o.bus.device.response := by
    have hnone : o.pending = [] := List.eq_nil_of_length_eq_zero (by rw [pending_length hfits]; omega)
    rw [← hnone]
    exact h.ahead
  have hsize := h.size
  have hsource := h.source
  have hwithin := hahead.length_le
  have hn : len.toNat ≤ snap.length - o.read_client_offset.toNat := by omega
  have hbytes := hdata (by simpa using hn.trans hwithin)
  have hsum : (o.read_source_offset + len.toUInt32).toNat = o.read_source_offset.toNat + len.toNat := by
    have hbound := o.read_file_size.toNat_lt
    rw [UInt32.toNat_add, UInt8.toNat_toUInt32]
    exact Nat.mod_eq_of_lt (by omega)
  refine ⟨?_, hsize, Nat.zero_le _, ?_, ?_⟩
  · rw [busRead_files]
    exact h.file
  · show (o.read_source_offset + len.toUInt32).toNat = o.read_client_offset.toNat + (len.toNat - 0)
    omega
  · have hcached : (busRead around o.bus o.read_cache len.toNat).2.1.take len.toNat =
        o.bus.device.response.take len.toNat := by
      rw [hbytes, List.take_append_of_le_length, List.take_take, Nat.min_self]
      rw [List.length_take]
      have : len.toNat ≤ o.bus.device.response.length := by simpa using hn.trans hwithin
      omega
    unfold pending window
    rw [hzero, Nat.sub_zero, List.drop_zero, hcached, hresponse]
    exact hahead.refill hn

theorem cacheReady_frame (o : OpenLog) : Frame o (o.cacheReady around).1 := by
  unfold cacheReady
  split_ifs
  · exact fillReadCache_frame around o
  · exact .refl o

theorem cacheReady_ok (hok : (o.cacheReady around).2 = true) :
    (o.cacheReady around).1.read_client_offset = o.read_client_offset ∧
    (o.cacheReady around).1.read_cache_pos.toNat < (o.cacheReady around).1.read_cache_len.toNat ∧
    ∀ snap, Fits o → Reading snap o → Reading snap (o.cacheReady around).1 := by
  unfold cacheReady at hok ⊢
  split_ifs at hok ⊢ with hempty
  · rcases fillReadCache_ok around hok with ⟨hclient, hsome, hreading⟩
    exact ⟨hclient, hsome, fun snap hfits h => hreading snap hfits hempty h⟩
  · exact ⟨rfl, UInt8.lt_iff_toNat_lt.mp (UInt8.not_le.mp hempty), fun _ _ h => h⟩

/-- The cache is not ready, or there is a byte in it. -/
theorem cacheReady_cases (o : OpenLog) :
    (∃ o', o.cacheReady around = (o', false) ∧ Frame o o') ∨
    ∃ o', o.cacheReady around = (o', true) ∧ o'.read_client_offset = o.read_client_offset ∧
      o'.read_cache_pos.toNat < o'.read_cache_len.toNat := by
  have hframe := cacheReady_frame around o
  have hready := cacheReady_ok around (o := o)
  rcases hcache : o.cacheReady around with ⟨o', ready⟩
  rw [hcache] at hframe hready
  cases ready with
  | false => exact .inl ⟨o', rfl, hframe⟩
  | true =>
    rcases hready rfl with ⟨hclient, hsome, -⟩
    exact .inr ⟨o', rfl, hclient, hsome⟩

/-- The caller goes on by `k` bytes. -/
def advance (o : OpenLog) (k : UInt8) : OpenLog :=
  { o with
    read_cache_pos := o.read_cache_pos + k
    read_client_offset := o.read_client_offset + k.toUInt32 }

theorem advance_frame (o : OpenLog) (k : UInt8) : Frame o (o.advance k) :=
  ⟨rfl, rfl, rfl, fun h => ⟨h.cache, h.len⟩⟩

theorem advance_client {k : UInt8} (hroom : o.read_client_offset.toNat + k.toNat < 2 ^ 32) :
    (o.advance k).read_client_offset.toNat = o.read_client_offset.toNat + k.toNat := by
  show (o.read_client_offset + k.toUInt32).toNat = _
  rw [UInt32.toNat_add, UInt8.toNat_toUInt32]
  exact Nat.mod_eq_of_lt hroom

theorem Reading.client_le (h : Reading snap o) (hfits : Fits o) :
    o.read_client_offset.toNat + (o.read_cache_len.toNat - o.read_cache_pos.toNat) ≤ snap.length := by
  have hwithin := h.ahead.within
  rwa [pending_length hfits] at hwithin

theorem Reading.advance (h : Reading snap o) (hfits : Fits o) {k : UInt8}
    (hk : k.toNat ≤ o.read_cache_len.toNat - o.read_cache_pos.toNat) :
    Reading snap (o.advance k) ∧
      (o.advance k).read_client_offset.toNat = o.read_client_offset.toNat + k.toNat := by
  have hclient := h.client_le hfits
  have hbound := o.read_file_size.toNat_lt
  have hsize := h.size
  have hpos := h.pos
  have hlen := hfits.len
  have hnext := advance_client (o := o) (k := k) (by omega)
  have hcache : (o.advance k).read_cache_pos.toNat = o.read_cache_pos.toNat + k.toNat := by
    show (o.read_cache_pos + k).toNat = _
    rw [UInt8.toNat_add]
    exact Nat.mod_eq_of_lt (by omega)
  refine ⟨⟨h.file, hsize, ?_, ?_, ?_⟩, hnext⟩
  · rw [hcache]
    show _ ≤ o.read_cache_len.toNat
    omega
  · rw [hcache, hnext]
    show o.read_source_offset.toNat = _ + (o.read_cache_len.toNat - _)
    rw [h.source]
    omega
  · have hdrop : (o.advance k).pending = o.pending.drop k.toNat := by
      unfold pending window
      rw [hcache, List.drop_take, List.drop_drop]
      show List.take (o.read_cache_len.toNat - _) _ = _
      congr 1
      omega
    rw [hnext, hdrop]
    exact h.ahead.advance (by rw [pending_length hfits]; exact hk)

theorem cached_toNat (hsome : o.read_cache_pos.toNat < o.read_cache_len.toNat) :
    (o.read_cache_len - o.read_cache_pos).toNat =
      o.read_cache_len.toNat - o.read_cache_pos.toNat :=
  UInt8.toNat_sub_of_le _ _ (UInt8.le_iff_toNat_le.mpr hsome.le)

/-- A pass that goes on has moved the caller, within the cache. -/
structure Moves (around : Surroundings) (o o' : OpenLog) (k : UInt8) : Prop where
  ready : o.cacheReady around = (o', true)
  some : 0 < k.toNat
  cached : k.toNat ≤ o'.read_cache_len.toNat - o'.read_cache_pos.toNat

theorem Moves.frame {around : Surroundings} {o' : OpenLog} {k : UInt8} (h : Moves around o o' k) :
    Frame o (o'.advance k) := by
  have hframe := cacheReady_frame around o
  rw [h.ready] at hframe
  exact hframe.trans (advance_frame o' k)

theorem Moves.client {around : Surroundings} {o' : OpenLog} {k : UInt8} (h : Moves around o o' k) :
    o'.read_client_offset = o.read_client_offset := by
  have hok := cacheReady_ok around (o := o) (by rw [h.ready])
  rw [h.ready] at hok
  exact hok.1

theorem Moves.reading {around : Surroundings} {o' : OpenLog} {k : UInt8} (h : Moves around o o' k) (hfits : Fits o)
    (hreading : Reading snap o) : Fits o' ∧ Reading snap o' := by
  have hframe := cacheReady_frame around o
  have hok := cacheReady_ok around (o := o) (by rw [h.ready])
  rw [h.ready] at hframe hok
  exact ⟨hframe.fits hfits, hok.2.2 snap hfits hreading⟩

theorem skip_toNat (needed : UInt32) (cached : UInt8) :
    (if needed < cached.toUInt32 then needed.toUInt8 else cached).toNat = min needed.toNat cached.toNat := by
  have hbound := cached.toNat_lt
  simp only [UInt32.lt_iff_toNat_lt, UInt8.toNat_toUInt32]
  split_ifs with hfew
  · rw [UInt32.toNat_toUInt8, Nat.min_eq_left hfew.le]
    exact Nat.mod_eq_of_lt (by omega)
  · rw [Nat.min_eq_right (Nat.le_of_not_lt hfew)]

theorem take_toNat (needed : Nat) (cached : UInt8) :
    (if needed < cached.toNat then UInt8.ofNat needed else cached).toNat = min needed cached.toNat := by
  have hbound := cached.toNat_lt
  split_ifs with hfew
  · rw [UInt8.toNat_ofNat', Nat.min_eq_left hfew.le]
    exact Nat.mod_eq_of_lt (by omega)
  · rw [Nat.min_eq_right (Nat.le_of_not_lt hfew)]

theorem skipPass_cases (offset : UInt32) (o : OpenLog) (ok : Bool) :
    (¬ o.read_client_offset < offset ∧ skipPass around offset (o, ok) = .done (o, true)) ∨
    (∃ o', skipPass around offset (o, ok) = .done (o', false) ∧ Frame o o') ∨
    ∃ o' k, skipPass around offset (o, ok) = .again (o'.advance k, true) ∧ Moves around o o' k ∧
      o.read_client_offset.toNat + k.toNat ≤ offset.toNat := by
  unfold skipPass
  dsimp only
  split_ifs with hbehind
  · right
    rcases cacheReady_cases around o with ⟨o', hcache, hframe⟩ | ⟨o', hcache, hclient, hsome⟩
    · rw [hcache]
      exact .inl ⟨o', rfl, hframe⟩
    · rw [hcache]
      dsimp only
      rw [← hclient] at hbehind ⊢
      have hcached := cached_toNat hsome
      have hless := UInt32.lt_iff_toNat_lt.mp hbehind
      have hneeded := UInt32.toNat_sub_of_le _ _ (UInt32.le_of_lt hbehind)
      have hk := skip_toNat (offset - o'.read_client_offset) (o'.read_cache_len - o'.read_cache_pos)
      rw [hneeded, hcached] at hk
      generalize (if offset - o'.read_client_offset < (o'.read_cache_len - o'.read_cache_pos).toUInt32 then
        (offset - o'.read_client_offset).toUInt8 else o'.read_cache_len - o'.read_cache_pos) = k at hk ⊢
      exact .inr ⟨o', k, rfl, ⟨hcache, by omega, by omega⟩, by omega⟩
  · exact .inl ⟨hbehind, rfl⟩

theorem skip_spec (offset : UInt32) (o : OpenLog) :
    ∃ s, loop (fun s => some (skipPass around offset s)) (offset.toNat + 1) (o, true) = some s ∧
      Frame o s.1 ∧ ∀ snap, s.2 = true → Fits o → Reading snap o → o.read_client_offset ≤ offset →
        Reading snap s.1 ∧ s.1.read_client_offset = offset := by
  have hmeasure : offset.toNat - o.read_client_offset.toNat < offset.toNat + 1 := by omega
  refine loop_rule
    (fun s => Frame o s.1 ∧ ∀ snap, Fits o → Reading snap o → o.read_client_offset ≤ offset →
      Reading snap s.1 ∧ s.1.read_client_offset ≤ offset)
    _ (fun s => offset.toNat - s.1.read_client_offset.toNat) ?_
    ⟨.refl o, fun _ _ h hle => ⟨h, hle⟩⟩ hmeasure
  rintro ⟨t, ok⟩ ⟨hframe, hreading⟩
  rcases skipPass_cases around offset t ok with
    ⟨hthere, hpass⟩ | ⟨t', hpass, hframe'⟩ | ⟨t', k, hpass, hmoves, hroom⟩
  · refine .inr ⟨_, congrArg some hpass, hframe, fun snap _ hfits h hle => ?_⟩
    rcases hreading snap hfits h hle with ⟨hnow, hbelow⟩
    exact ⟨hnow, UInt32.le_antisymm hbelow (UInt32.not_lt.mp hthere)⟩
  · exact .inr ⟨_, congrArg some hpass, hframe.trans hframe', fun _ hfalse => (by cases hfalse)⟩
  · have hbound := offset.toNat_lt
    have hpos := hmoves.some
    have hclient := advance_client (o := t') (k := k) (by rw [hmoves.client]; omega)
    rw [hmoves.client] at hclient
    refine .inl ⟨_, congrArg some hpass, ?_, hframe.trans hmoves.frame, fun snap hfits h hle => ?_⟩
    · dsimp only
      omega
    · rcases hmoves.reading (hframe.fits hfits) (hreading snap hfits h hle).1 with ⟨hfits', hnow⟩
      refine ⟨(hnow.advance hfits' hmoves.cached).1, UInt32.le_iff_toNat_le.mpr ?_⟩
      dsimp only
      omega

theorem copyPass_cases (len : UInt16) (o : OpenLog) (out : List UInt8) (ok : Bool) :
    (¬ out.length < len.toNat ∧ copyPass around len (o, out, ok) = .done (o, out, true)) ∨
    (∃ o', copyPass around len (o, out, ok) = .done (o', out, false) ∧ Frame o o') ∨
    ∃ o' k, copyPass around len (o, out, ok) = .again (o'.advance k,
        out ++ o'.pending.take k.toNat, true) ∧
      Moves around o o' k ∧ out.length + k.toNat ≤ len.toNat := by
  unfold copyPass
  dsimp only
  split_ifs with hshort
  · right
    rcases cacheReady_cases around o with ⟨o', hcache, hframe⟩ | ⟨o', hcache, -, hsome⟩
    · rw [hcache]
      exact .inl ⟨o', rfl, hframe⟩
    · rw [hcache]
      dsimp only
      have hcached := cached_toNat hsome
      have hk := take_toNat (len.toNat - out.length) (o'.read_cache_len - o'.read_cache_pos)
      generalize (if len.toNat - out.length < (o'.read_cache_len - o'.read_cache_pos).toNat then
        UInt8.ofNat (len.toNat - out.length) else o'.read_cache_len - o'.read_cache_pos) = k at hk ⊢
      have hfew : k.toNat ≤ o'.read_cache_len.toNat - o'.read_cache_pos.toNat := by omega
      refine .inr ⟨o', k, ?_, ⟨hcache, by omega, hfew⟩, by omega⟩
      unfold pending window
      rw [List.take_take, Nat.min_eq_left hfew]
      rfl
  · exact .inl ⟨hshort, rfl⟩

theorem copy_spec (len : UInt16) (o : OpenLog) (hfits : Fits o) :
    ∃ s, loop (fun s => some (copyPass around len s)) (len.toNat + 1) (o, [], true) = some s ∧
      Frame o s.1 ∧ ∀ snap, s.2.2 = true → Reading snap o → Reading snap s.1 ∧
        o.read_client_offset.toNat + len.toNat ≤ snap.length ∧
        s.2.1 = window snap o.read_client_offset.toNat len.toNat := by
  refine loop_rule
    (fun s => Frame o s.1 ∧ s.2.1.length ≤ len.toNat ∧ ∀ snap, Reading snap o → Reading snap s.1 ∧
      s.1.read_client_offset.toNat = o.read_client_offset.toNat + s.2.1.length ∧
      s.2.1 = window snap o.read_client_offset.toNat s.2.1.length)
    _ (fun s => len.toNat - s.2.1.length) ?_
    ⟨.refl o, Nat.zero_le _, fun _ h => ⟨h, rfl, rfl⟩⟩ (Nat.lt_succ_of_le (Nat.sub_le _ _))
  rintro ⟨t, out, ok⟩ ⟨hframe, hshort, hreading⟩
  dsimp only at hframe hshort hreading
  rcases copyPass_cases around len t out ok with
    ⟨hfull, hpass⟩ | ⟨t', hpass, hframe'⟩ | ⟨t', k, hpass, hmoves, hroom⟩
  · refine .inr ⟨_, congrArg some hpass, hframe, fun snap _ h => ?_⟩
    rcases hreading snap h with ⟨hnow, hclient, hout⟩
    have hlen : out.length = len.toNat := by omega
    have hwithin := hnow.client_le (hframe.fits hfits)
    rw [hlen] at hclient hout
    exact ⟨hnow, by omega, hout⟩
  · exact .inr ⟨_, congrArg some hpass, hframe.trans hframe', fun _ hfalse => (by cases hfalse)⟩
  · have hpos := hmoves.some
    have hready := cacheReady_frame around t
    rw [hmoves.ready] at hready
    have htaken : (t'.pending.take k.toNat).length = k.toNat := by
      rw [List.length_take, pending_length (hready.fits (hframe.fits hfits))]
      exact Nat.min_eq_left hmoves.cached
    refine .inl ⟨_, congrArg some hpass, ?_, hframe.trans hmoves.frame, ?_, fun snap h => ?_⟩
    · dsimp only
      rw [List.length_append, htaken]
      omega
    · dsimp only
      rw [List.length_append, htaken]
      exact hroom
    · rcases hreading snap h with ⟨hnow, hclient, hout⟩
      rcases hmoves.reading (hframe.fits hfits) hnow with ⟨hfits', hnow'⟩
      rcases hnow'.advance hfits' hmoves.cached with ⟨hnext, hnextClient⟩
      rw [List.length_append, htaken]
      refine ⟨hnext, ?_, ?_⟩
      · rw [hnextClient, hmoves.client, hclient, Nat.add_assoc]
      · have hbytes := hnow'.ahead.take_eq (n := k.toNat) (by
          rw [pending_length hfits']
          exact hmoves.cached)
        rw [hmoves.client, hclient] at hbytes
        rw [window_split, ← hout, hbytes]
        rfl

theorem command_files (bus : Bus) {register : Register} (hquery : register.Query) (data : List UInt8) :
    (command around bus register data).1.device.files = bus.device.files := by
  unfold command
  split_ifs
  · rfl
  · dsimp only
    split_ifs
    · rcases hquery with rfl | rfl | rfl
      · rfl
      · rfl
      · rfl
    · rfl

theorem answered_size (bus : Bus) (name : List UInt8) : ∃ size,
    (bus.device.execute (around.fates bus.now) .fileSize name).response = Device.sizeBytes size ∧
    (size ≠ 0xFFFFFFFF → ∃ contents, bus.device.files name = some contents ∧ size.toNat ≤ contents.length) := by
  unfold Device.execute
  cases hfile : bus.device.files name with
  | none => exact ⟨_, rfl, fun hne => absurd rfl hne⟩
  | some contents =>
    refine ⟨_, rfl, fun _ => ⟨contents, rfl, ?_⟩⟩
    rw [UInt32.toNat_ofNat']
    exact Nat.mod_le _ _

theorem fileSize_cases {around : Surroundings} (hreliable : Reliable around) (o : OpenLog) (name : List UInt8) :
    (∃ bus, o.fileSize around name = ({ o with bus }, none) ∧ bus.device.files = o.bus.device.files) ∨
    ∃ bus size there, o.fileSize around name =
        ({ o with bus, append_file := [], read_file := [] }, some (size, there)) ∧
      bus.device.files = o.bus.device.files ∧ name ≠ [] ∧
      (there = true → ∃ contents, o.bus.device.files name = some contents ∧ size.toNat ≤ contents.length) := by
  have hquery : Register.fileSize.Query := .inl rfl
  have hfiles := command_files around o.bus hquery name
  have hcommand := command_query hreliable o.bus hquery name
  unfold fileSize
  split_ifs with hready hname
  · exact .inl ⟨o.bus, rfl, rfl⟩
  · exact .inl ⟨o.bus, rfl, rfl⟩
  · dsimp only
    generalize command around o.bus .fileSize name = sent at hfiles hcommand ⊢
    rcases sent with ⟨bus, ok⟩
    dsimp only at hfiles hcommand ⊢
    cases ok with
    | false => exact .inl ⟨bus, rfl, hfiles⟩
    | true =>
      have hread := busRead_ok around bus [0, 0, 0, 0] 4
      have hfiles' := busRead_files around bus [0, 0, 0, 0] 4
      generalize busRead around bus [0, 0, 0, 0] 4 = answer at hread hfiles' ⊢
      rcases answer with ⟨bus', raw, ok⟩
      dsimp only at hread hfiles' ⊢
      cases ok with
      | false => exact .inl ⟨bus', rfl, hfiles'.trans hfiles⟩
      | true =>
        refine .inr ⟨bus', _, _, rfl, hfiles'.trans hfiles, ?_, fun hthere => ?_⟩
        · rintro rfl
          exact hname (.inl rfl)
        · rcases answered_size around o.bus name with ⟨size, hresponse, hsize⟩
          rw [← hcommand rfl] at hresponse
          have hraw : raw = Device.sizeBytes size := by
            rw [hresponse] at hread
            exact (hread rfl).2 (Nat.le_refl 4)
          have hvalue := size_of_sizeBytes size []
          rw [List.append_nil, ← hraw] at hvalue
          rw [hvalue] at hthere ⊢
          rw [if_pos hthere]
          exact hsize (by simpa using hthere)

/-- At most one file is open, and what is cached of one that is read goes on with it. -/
structure Sound (o : OpenLog) : Prop where
  fits : Fits o
  one : o.append_file = [] ∨ o.read_file = []
  reading : o.read_file ≠ [] → ∃ snap, Reading snap o

structure Opens (o o' : OpenLog) : Prop where
  files : o'.bus.device.files = o.bus.device.files
  fits : Fits o'
  one : o'.append_file = [] ∨ o'.read_file = []

theorem beginRead_response {around : Surroundings} (hreliable : Reliable around) (bus : Bus) {contents : List UInt8}
    (hfile : bus.device.files name = some contents)
    (hstart : (command around bus .startPosition [0]).2 = true)
    (hread : (command around (command around bus .startPosition [0]).1 .readFile name).2 = true) :
    (command around (command around bus .startPosition [0]).1 .readFile name).1.device.response =
      contents := by
  rw [command_query hreliable _ (.inr (.inr rfl)) _ hread, command_query hreliable _ (.inr (.inl rfl)) _ hstart]
  unfold Device.execute
  rw [hfile]
  rfl

theorem beginRead_spec {around : Surroundings} (hreliable : Reliable around) (hfits : Fits o)
    (hone : o.append_file = [] ∨ o.read_file = []) (name : List UInt8) :
    Opens o (o.beginRead around name).1 ∧ ((o.beginRead around name).2 = true →
      (o.beginRead around name).1.read_file = name ∧ (o.beginRead around name).1.read_client_offset = 0 ∧
      ∃ snap, Reading snap (o.beginRead around name).1) := by
  unfold beginRead
  rcases fileSize_cases hreliable o name with
    ⟨bus, hsize, hfiles⟩ | ⟨bus, size, there, hsize, hfiles, hname, hthere⟩
  · rw [hsize]
    exact ⟨⟨hfiles, ⟨hfits.cache, hfits.len⟩, hone⟩, nofun⟩
  · rw [hsize]
    cases there with
    | false => exact ⟨⟨hfiles, ⟨hfits.cache, hfits.len⟩, .inl rfl⟩, nofun⟩
    | true =>
      rcases hthere rfl with ⟨contents, hfile, hlength⟩
      rw [← hfiles] at hfile
      have hresponse := beginRead_response hreliable bus hfile
      have hstartFiles := command_files around bus (.inr (.inl rfl)) [0]
      have hreadFiles := command_files around (command around bus .startPosition [0]).1
        (.inr (.inr rfl)) name
      dsimp only
      generalize command around bus .startPosition [0] = started at hresponse hstartFiles hreadFiles ⊢
      rcases started with ⟨bus', ok⟩
      dsimp only at hresponse hstartFiles hreadFiles ⊢
      cases ok with
      | false => exact ⟨⟨hstartFiles.trans hfiles, ⟨hfits.cache, hfits.len⟩, .inl rfl⟩, nofun⟩
      | true =>
        generalize command around bus' .readFile name = sent at hresponse hreadFiles ⊢
        rcases sent with ⟨bus'', ok⟩
        have hsame := hreadFiles.trans (hstartFiles.trans hfiles)
        dsimp only at hresponse hsame ⊢
        cases ok with
        | false => exact ⟨⟨hsame, ⟨hfits.cache, hfits.len⟩, .inl rfl⟩, nofun⟩
        | true =>
          by_cases hlong : name.length = 0 ∨ name.length ≥ 13
          · rw [show copyName name = none from if_pos hlong]
            exact ⟨⟨hsame, ⟨hfits.cache, hfits.len⟩, .inl rfl⟩, nofun⟩
          · rw [show copyName name = some name from if_neg hlong]
            refine ⟨⟨hsame, ⟨hfits.cache, Nat.zero_le _⟩, .inl rfl⟩, fun _ => ⟨rfl, rfl, ?_⟩⟩
            refine ⟨contents.take size.toNat, ⟨contents.drop size.toNat, ?_⟩, ?_, Nat.le_refl _, rfl, ?_⟩
            · rw [List.take_append_drop]
              show bus''.device.files name = _
              rw [hsame, ← hfiles]
              exact hfile
            · exact List.length_take_of_le hlength
            · show Ahead _ 0 [] bus''.device.response
              rw [hresponse rfl rfl]
              exact ahead_start (List.take_prefix _ _)

/-- What a read has delivered: the bytes of what the file held when it was opened, and still holds. -/
def Delivered (o : OpenLog) (name : List UInt8) (offset : UInt32) (len : UInt16) (out : List UInt8) : Prop :=
  o.read_file = name ∧ (name ≠ [] → ∃ snap, Reading snap o ∧
    offset.toNat + len.toNat ≤ snap.length ∧ out = window snap offset.toNat len.toNat)

theorem readOpened_spec (hfits : Fits o) (hone : o.append_file = [] ∨ o.read_file = [])
    (hname : o.read_file = name) {offset : UInt32} (hclient : o.read_client_offset ≤ offset)
    (hreading : name ≠ [] → ∃ snap, Reading snap o) (len : UInt16) :
    ∃ o' r, o.readOpened around offset len = some (o', r) ∧ Opens o o' ∧
      ∀ out, r = some out → Delivered o' name offset len out := by
  have hopens : ∀ {o' : OpenLog}, Frame o o' → Opens o o' := by
    intro o' hframe
    refine ⟨hframe.files, hframe.fits hfits, ?_⟩
    rw [hframe.append_file, hframe.read_file]
    exact hone
  unfold readOpened
  rcases skip_spec around offset o with ⟨⟨o₁, ok⟩, hskip, hframe, hskipped⟩
  rw [hskip]
  cases ok with
  | false => exact ⟨o₁, none, rfl, hopens hframe, nofun⟩
  | true =>
    rcases copy_spec around len o₁ (hframe.fits hfits) with ⟨⟨o₂, out, ok⟩, hcopy, hframe', hcopied⟩
    dsimp only
    rw [hcopy]
    cases ok with
    | false => exact ⟨o₂, none, rfl, hopens (hframe.trans hframe'), nofun⟩
    | true =>
      refine ⟨o₂, some out, rfl, hopens (hframe.trans hframe'), fun out' hout => ?_⟩
      cases hout
      refine ⟨(hframe'.read_file.trans hframe.read_file).trans hname, fun hne => ?_⟩
      rcases hreading hne with ⟨snap, h⟩
      rcases hskipped snap rfl hfits h hclient with ⟨hnow, hthere⟩
      rcases hcopied snap rfl hnow with ⟨hend, hwithin, hbytes⟩
      rw [hthere] at hwithin hbytes
      exact ⟨snap, hend, hwithin, hbytes⟩

/-- One attempt: it ends, and delivers the bytes of the file, if any. -/
theorem readAtOnce_spec {around : Surroundings} (hreliable : Reliable around) (h : Sound o)
    (name : List UInt8) (offset : UInt32) (len : UInt16) :
    ∃ o' r, o.readAtOnce around name offset len = some (o', r) ∧ Opens o o' ∧
      ∀ out, r = some out → Delivered o' name offset len out := by
  unfold readAtOnce
  cases hready : o.ready with
  | false => exact ⟨o, none, rfl, ⟨rfl, h.fits, h.one⟩, nofun⟩
  | true =>
    rw [if_neg (by simp)]
    by_cases hopen : o.read_file ≠ name ∨ offset < o.read_client_offset
    · rw [if_pos hopen]
      rcases beginRead_spec hreliable h.fits h.one name with ⟨hopens, hread⟩
      rcases hbegin : o.beginRead around name with ⟨o₁, ok⟩
      rw [hbegin] at hopens hread
      cases ok with
      | false => exact ⟨o₁, none, rfl, hopens, nofun⟩
      | true =>
        rcases hread rfl with ⟨hname, hclient, hreading⟩
        have hle : o₁.read_client_offset ≤ offset := by
          rw [show o₁.read_client_offset = 0 from hclient]
          exact UInt32.zero_le
        rcases readOpened_spec around hopens.fits hopens.one hname hle (fun _ => hreading) len with
          ⟨o₂, r, hr, hopens', hdelivered⟩
        exact ⟨o₂, r, hr, ⟨hopens'.files.trans hopens.files, hopens'.fits, hopens'.one⟩, hdelivered⟩
    · rw [if_neg hopen]
      rcases not_or.mp hopen with ⟨hsame, hclient⟩
      have hname := not_not.mp hsame
      refine readOpened_spec around h.fits h.one hname (UInt32.not_lt.mp hclient) (fun hne => ?_) len
      rw [← hname] at hne
      exact h.reading hne

theorem readAttempts_spec {around : Surroundings} (hreliable : Reliable around) (name : List UInt8)
    (offset : UInt32) (len : UInt16) (attempts : Nat) (h : Sound o) : ∃ o' r,
      readAttempts around name offset len attempts o = some (o', r) ∧ Sound o' ∧
      o'.bus.device.files = o.bus.device.files ∧
      ∀ out, r = some out → Delivered o' name offset len out := by
  induction attempts generalizing o with
  | zero => exact ⟨o, none, rfl, h, rfl, nofun⟩
  | succ attempts ih =>
    unfold readAttempts
    rcases readAtOnce_spec hreliable h name offset len with ⟨o', r, hr, hopens, hdelivered⟩
    rw [hr]
    cases r with
    | none =>
      have hclosed : Sound { o' with read_file := [], read_cache_pos := 0, read_cache_len := 0 } :=
        ⟨⟨hopens.fits.cache, Nat.zero_le _⟩, .inr rfl, fun hne => absurd rfl hne⟩
      rcases ih hclosed with ⟨o'', r, hr', hsound, hfiles, hout⟩
      exact ⟨o'', r, hr', hsound, hfiles.trans hopens.files, hout⟩
    | some out =>
      have hout := hdelivered out rfl
      refine ⟨o', some out, rfl, ⟨hopens.fits, hopens.one, fun hne => ?_⟩, hopens.files, hdelivered⟩
      rw [hout.1] at hne
      rcases hout.2 hne with ⟨snap, hreading, -, -⟩
      exact ⟨snap, hreading⟩

theorem Sound.of_bus (h : Sound o) {bus : Bus} (hgrows : Grows o.bus.device.files bus.device.files)
    (hcursor : o.read_file ≠ [] → bus.device.response = o.bus.device.response) : Sound { o with bus } := by
  refine ⟨⟨h.fits.cache, h.fits.len⟩, h.one, fun hopen => ?_⟩
  rcases h.reading hopen with ⟨snap, hreading⟩
  rcases hreading.file with ⟨more, hfile⟩
  rcases hgrows _ _ hfile with ⟨rest, hrest⟩
  refine ⟨snap, ⟨more ++ rest, ?_⟩, hreading.size, hreading.pos, hreading.source, ?_⟩
  · rw [← List.append_assoc]
    exact hrest
  · show Ahead snap _ _ bus.device.response
    rw [hcursor hopen]
    exact hreading.ahead

theorem sound_of_closed (hfits : Fits o) (hclosed : o.read_file = []) : Sound o :=
  ⟨hfits, .inr hclosed, fun hopen => absurd hclosed hopen⟩

/-- To select a file for appending, the driver opens it and closes the other; or it has it, or fails. -/
theorem selectAppendFile_cases (o : OpenLog) (name : List UInt8) : ∃ bus,
    Grows o.bus.device.files bus.device.files ∧
      (o.selectAppendFile around name = (o, true) ∧ o.append_file = name ∨
        o.selectAppendFile around name = ({ o with bus }, false) ∨
        o.selectAppendFile around name = ({ o with bus, append_file := name, read_file := [] }, true)) := by
  unfold selectAppendFile
  by_cases hselected : o.append_file = name
  · rw [if_pos hselected]
    exact ⟨o.bus, .refl _, .inl ⟨rfl, hselected⟩⟩
  · rw [if_neg hselected]
    split_ifs
    · exact ⟨o.bus, .refl _, .inr (.inl rfl)⟩
    · have hopen := grows_command around o.bus .openFile name
      generalize command around o.bus .openFile name = sent at hopen ⊢
      rcases sent with ⟨bus, ok⟩
      dsimp only at hopen ⊢
      cases ok with
      | false => exact ⟨bus, hopen, .inr (.inl rfl)⟩
      | true =>
        by_cases hlong : name.length = 0 ∨ name.length ≥ 13
        · rw [show copyName name = none from if_pos hlong]
          exact ⟨bus, hopen, .inr (.inl rfl)⟩
        · rw [show copyName name = some name from if_neg hlong]
          exact ⟨bus, hopen, .inr (.inr rfl)⟩

/-- What an append does to the driver: nothing but transactions, when it fails or has its file already, or it
opens its file for it. -/
theorem append_cases (o : OpenLog) (name data : List UInt8) :
    ∃ bus ok, Grows o.bus.device.files bus.device.files ∧
      (o.append around name data = ({ o with bus }, ok) ∧ (ok = false ∨ o.append_file = name) ∨
        o.append around name data = ({ o with bus, append_file := name, read_file := [] }, ok)) := by
  unfold append
  by_cases hrefused : (!o.ready) = true ∨ data.length > kMaxWriteBytes
  · rw [if_pos hrefused]
    exact ⟨o.bus, false, .refl _, .inl ⟨rfl, .inl rfl⟩⟩
  · rw [if_neg hrefused]
    rcases selectAppendFile_cases around o name with ⟨bus, hgrows, ⟨hselect, hname⟩ | hselect | hselect⟩
    · rw [hselect]
      by_cases hempty : data.length = 0
      · exact ⟨o.bus, true, .refl _, .inl ⟨if_pos hempty, .inr hname⟩⟩
      · exact ⟨_, _, grows_command around o.bus .writeFile data, .inl ⟨if_neg hempty, .inr hname⟩⟩
    · rw [hselect]
      exact ⟨bus, false, hgrows, .inl ⟨rfl, .inl rfl⟩⟩
    · rw [hselect]
      by_cases hempty : data.length = 0
      · exact ⟨bus, true, hgrows, .inr (if_pos hempty)⟩
      · exact ⟨_, _, hgrows.trans (grows_command around bus .writeFile data), .inr (if_neg hempty)⟩

theorem begin_closed (hfits : Fits o) : Sound (o.begin around).1 := by
  refine sound_of_closed ?_ ?_
  · unfold OpenLog.begin
    dsimp only
    split_ifs
    · exact ⟨hfits.cache, hfits.len⟩
    · exact ⟨hfits.cache, hfits.len⟩
    · exact ⟨hfits.cache, hfits.len⟩
  · unfold OpenLog.begin
    dsimp only
    split_ifs
    · rfl
    · rfl
    · rfl

end OpenLog

open OpenLog

/-- A size query or an append has moved the device's cursor, and left a file open for reading. -/
def Disturbs (e : OpenLogEvent) : Prop :=
  match e.label with
  | .fileSize _ | .append _ _ =>
    e.post.read_file ≠ [] ∧ e.post.bus.device.response ≠ e.pre.bus.device.response
  | _ => False

section Runs

variable {around : Surroundings} {bus : Bus} {h : List OpenLogEvent} {o : OpenLog}

theorem call_total (hreliable : Reliable around) (hs : OpenLog.Sound o) (call : OpenLogCall) :
    ∃ o', o.call around call = some o' := by
  cases call with
  | readAt name offset len =>
    rcases readAttempts_spec hreliable name offset len 3 hs with ⟨o', r, hr, -⟩
    exact ⟨o', congrArg (Option.map Prod.fst) hr⟩
  | _ => exact ⟨_, rfl⟩

theorem sound_call (hreliable : Reliable around) {e : OpenLogEvent} (hs : OpenLog.Sound e.pre)
    (hcall : e.pre.call around e.label = some e.post) (hquiet : ¬ Disturbs e) : OpenLog.Sound e.post := by
  rcases e with ⟨o, call, o'⟩
  dsimp only at hs hcall hquiet ⊢
  cases call with
  | begin =>
    cases hcall
    exact begin_closed around hs.fits
  | readAt name offset len =>
    rcases readAttempts_spec hreliable name offset len 3 hs with ⟨o'', r, hr, hsound, -⟩
    have hpost : some o'' = some o' := (congrArg (Option.map Prod.fst) hr).symm.trans hcall
    cases hpost
    exact hsound
  | fileSize name =>
    have hkept : o'.read_file ≠ [] → o'.bus.device.response = o.bus.device.response :=
      fun hopen => not_not.mp fun hmoved => hquiet ⟨hopen, hmoved⟩
    rw [← show (o.fileSize around name).1 = o' from Option.some.inj hcall] at hkept ⊢
    rcases fileSize_cases hreliable o name with ⟨bus, hsize, hfiles⟩ | ⟨bus, size, there, hsize, -⟩
    · rw [hsize] at hkept ⊢
      exact hs.of_bus (by rw [hfiles]; exact .refl _) hkept
    · rw [hsize]
      exact sound_of_closed ⟨hs.fits.cache, hs.fits.len⟩ rfl
  | append name data =>
    have hkept : o'.read_file ≠ [] → o'.bus.device.response = o.bus.device.response :=
      fun hopen => not_not.mp fun hmoved => hquiet ⟨hopen, hmoved⟩
    rw [← show (o.append around name data).1 = o' from Option.some.inj hcall] at hkept ⊢
    rcases append_cases around o name data with ⟨bus, ok, hgrows, ⟨happend, -⟩ | happend⟩
    · rw [happend] at hkept ⊢
      exact hs.of_bus hgrows hkept
    · rw [happend]
      exact sound_of_closed ⟨hs.fits.cache, hs.fits.len⟩ rfl

theorem sound_of_run (hreliable : Reliable around) (run : OpenLogRun around bus h o)
    (hquiet : ∀ e ∈ h, ¬ Disturbs e) : OpenLog.Sound o := by
  induction h generalizing o with
  | nil =>
    cases run with
    | nil => exact sound_of_closed ⟨rfl, Nat.zero_le _⟩ rfl
  | cons e h ih =>
    rcases run.of_cons with ⟨rfl, hcall, run'⟩
    have hbefore := ih run' fun x hx => hquiet x (List.mem_cons_of_mem _ hx)
    exact sound_call hreliable hbefore hcall (hquiet e (List.mem_cons_self ..))

theorem disturbs_failed (hreliable : Reliable around) {e : OpenLogEvent} (hs : OpenLog.Sound e.pre)
    (hcall : e.pre.call around e.label = some e.post) (hdisturbs : Disturbs e) :
    (∃ name, e.label = .fileSize name ∧ (e.pre.fileSize around name).2 = none) ∨
    ∃ name data, e.label = .append name data ∧ ((e.pre.append around name data).2 = false ∨ name = []) := by
  rcases e with ⟨o, call, o'⟩
  dsimp only at hs hcall ⊢
  cases call with
  | begin => cases hdisturbs
  | readAt name offset len => cases hdisturbs
  | fileSize name =>
    have hopen : o'.read_file ≠ [] := hdisturbs.1
    rw [← show (o.fileSize around name).1 = o' from Option.some.inj hcall] at hopen
    rcases fileSize_cases hreliable o name with ⟨bus, hsize, -⟩ | ⟨bus, size, there, hsize, -⟩
    · exact .inl ⟨name, rfl, by rw [hsize]⟩
    · rw [hsize] at hopen
      exact absurd rfl hopen
  | append name data =>
    have hopen : o'.read_file ≠ [] := hdisturbs.1
    rw [← show (o.append around name data).1 = o' from Option.some.inj hcall] at hopen
    rcases append_cases around o name data with ⟨bus, ok, -, ⟨happend, hfailed | hname⟩ | happend⟩
    · exact .inr ⟨name, data, rfl, .inl (by rw [happend, hfailed])⟩
    · rw [happend] at hopen
      rcases hs.one with hnone | hclosed
      · exact .inr ⟨name, data, rfl, .inr (hname.symm.trans hnone)⟩
      · exact absurd hclosed hopen
    · rw [happend] at hopen
      exact absurd rfl hopen

/-- The bytes are those of the file. -/
def Exact (file : Option (List UInt8)) (offset : UInt32) (len : UInt16) (out : List UInt8) : Prop :=
  ∃ contents ∈ file, offset.toNat + len.toNat ≤ contents.length ∧ out = window contents offset.toNat len.toNat

instance (file : Option (List UInt8)) (offset : UInt32) (len : UInt16) (out : List UInt8) :
    Decidable (Exact file offset len out) :=
  match file with
  | none => isFalse nofun
  | some contents => decidable_of_iff
      (offset.toNat + len.toNat ≤ contents.length ∧ out = window contents offset.toNat len.toNat)
      ⟨fun h => ⟨contents, rfl, h⟩, fun ⟨_, hc, h⟩ => by cases hc; exact h⟩

/-- **The read cursor.** Let every command of a read that the driver takes for accepted reach the device. In
every run in which no size query and no append moves the device's cursor and leaves a file open for reading, a
`readAt` of a named file that succeeds delivers the bytes of the file as it is then; and every call ends. -/
theorem readAt_exact (hreliable : Reliable around) (run : OpenLogRun around bus h o)
    (hquiet : ∀ e ∈ h, ¬ Disturbs e) :
    (∀ e ∈ h, ∀ name offset len out, e.label = .readAt name offset len → name ≠ [] →
      e.pre.readAt around name offset len = some (e.post, some out) →
      Exact (e.post.bus.device.files name) offset len out) ∧
    ∀ call, ∃ o', o.call around call = some o' := by
  refine ⟨fun e he name offset len out _ hne hread => ?_,
    call_total hreliable (sound_of_run hreliable run hquiet)⟩
  rcases List.append_of_mem he with ⟨later, earlier, rfl⟩
  rcases run.of_append with ⟨o₁, hupto⟩
  rcases hupto.of_cons with ⟨-, -, hbefore⟩
  have hs := sound_of_run hreliable hbefore
    fun x hx => hquiet x (List.mem_append_right _ (List.mem_cons_of_mem _ hx))
  rcases readAttempts_spec hreliable name offset len 3 hs with ⟨o', r, hr, -, -, hdelivered⟩
  cases hr.symm.trans hread
  rcases (hdelivered out rfl).2 hne with ⟨snap, hreading, hwithin, hbytes⟩
  rcases hreading.file with ⟨more, hfile⟩
  rw [(hdelivered out rfl).1] at hfile
  refine ⟨snap ++ more, hfile, ?_, ?_⟩
  · rw [List.length_append]
    omega
  · rw [window_append_left hwithin]
    exact hbytes

end Runs

def steady : Surroundings where
  samd21 := false
  fates _ := ⟨fun _ => true, true, [1], false, 0, 0, 255⟩

/-- The device with one file of 40 bytes, the byte at `i` being `i`. -/
def oneFile : Bus where
  device :=
    { files := Function.update (fun _ => none) [65] (some ((List.range 40).map UInt8.ofNat))
      opened := none
      start := 0
      response := [] }
  now := 0

/-- What a read delivers after some calls, with the file as it is then. -/
def readAfter (around : Surroundings) (calls : List OpenLogCall) (name : List UInt8) (offset : UInt32)
    (len : UInt16) : Option (Option (List UInt8) × List UInt8) :=
  match replay (OpenLog.call around) { bus := oneFile } [] calls with
  | none => none
  | some (o, _) =>
    match o.readAt around name offset len with
    | some (o', some out) => some (o'.bus.device.files name, out)
    | _ => none

/-- In a run, a `readAt` that succeeds and comes last. -/
theorem run_of_readAfter {around : Surroundings} {calls : List OpenLogCall} {name : List UInt8} {offset : UInt32}
    {len : UInt16} {file : Option (List UInt8)} {out : List UInt8}
    (hread : readAfter around calls name offset len = some (file, out)) :
    ∃ h o o', OpenLogRun around oneFile (⟨o, .readAt name offset len, o'⟩ :: h) o' ∧
      replay (OpenLog.call around) { bus := oneFile } [] calls = some (o, h) ∧
      o.readAt around name offset len = some (o', some out) ∧ o'.bus.device.files name = file := by
  unfold readAfter at hread
  rcases hreplay : replay (OpenLog.call around) { bus := oneFile } [] calls with - | ⟨o, h⟩
  · rw [hreplay] at hread
    cases hread
  · rw [hreplay] at hread
    dsimp only at hread
    rcases hlast : o.readAt around name offset len with - | ⟨o', - | bytes⟩
    · rw [hlast] at hread
      cases hread
    · rw [hlast] at hread
      cases hread
    · rw [hlast] at hread
      cases hread
      have hcall : o.call around (.readAt name offset len) = some o' := congrArg (Option.map Prod.fst) hlast
      exact ⟨h, o, o', (run_replay calls .nil hreplay).step hcall, rfl, hlast, rfl⟩

theorem readAt_exact_appended :
    Exact (some ((List.range 40).map UInt8.ofNat ++ [7])) 38 3 [38, 39, 7] := by
  have hread : readAfter steady [.begin, .append [65] [7]] [65] 38 3 =
      some (some ((List.range 40).map UInt8.ofNat ++ [7]), [38, 39, 7]) := by decide +kernel
  rcases run_of_readAfter hread with ⟨h, o, o', run, hreplay, hlast, hfile⟩
  cases hreplay
  rw [← hfile]
  refine (readAt_exact (fun _ _ _ _ => rfl) run ?_).1 _ (List.mem_cons_self ..) _ _ _ _ rfl (by decide) hlast
  intro e he hdisturbs
  rcases List.mem_cons.mp he with rfl | he
  · exact hdisturbs
  · rcases List.mem_cons.mp he with rfl | he
    · exact hdisturbs.1 (by decide +kernel)
    · rw [List.mem_singleton.mp he] at hdisturbs
      exact hdisturbs

/-- After some calls, a `readAt` succeeds with other bytes than those of the file. -/
def Misreads (around : Surroundings) (calls : List OpenLogCall) (name : List UInt8) (offset : UInt32)
    (len : UInt16) : Prop :=
  ∃ h o o' out, replay (OpenLog.call around) { bus := oneFile } [] calls = some (o, h) ∧
    OpenLogRun around oneFile (⟨o, .readAt name offset len, o'⟩ :: h) o' ∧
    o.readAt around name offset len = some (o', some out) ∧
    ¬ Exact (o'.bus.device.files name) offset len out

theorem misreads_of_readAfter {around : Surroundings} {calls : List OpenLogCall} {name : List UInt8}
    {offset : UInt32} {len : UInt16} {file : Option (List UInt8)} {out : List UInt8}
    (hread : readAfter around calls name offset len = some (file, out)) (hwrong : ¬ Exact file offset len out) :
    Misreads around calls name offset len := by
  rcases run_of_readAfter hread with ⟨h, o, o', run, hreplay, hlast, hfile⟩
  rw [← hfile] at hwrong
  exact ⟨h, o, o', out, hreplay, run, hlast, hwrong⟩

/-- A SAMD21 build on a bus that loses the command to read a file. -/
def lostRead : Surroundings where
  samd21 := true
  fates _ := ⟨fun register => register != .readFile, true, [1], false, 0, 0, 255⟩

def failedQuery : Surroundings where
  samd21 := false
  fates n := ⟨fun _ => true, true, [1], n == 8, 0, 0, 255⟩

/-- When the command to read is lost, what the device has left from the command before is taken for the file.
A size query that fails leaves the file open, and the size is taken for its bytes. Without a name, a read goes on
in what is cached of the file that was closed. -/
theorem readAt_not_exact :
    Misreads lostRead [.begin] [65] 0 1 ∧
    Misreads failedQuery [.begin, .readAt [65] 0 1, .fileSize [65]] [65] 32 4 ∧
    Misreads steady [.begin, .readAt [65] 0 1, .append [66] []] [] 1 1 := by
  have hlost : readAfter lostRead [.begin] [65] 0 1 =
      some (some ((List.range 40).map UInt8.ofNat), [1]) := by decide +kernel
  have hfailed : readAfter failedQuery [.begin, .readAt [65] 0 1, .fileSize [65]] [65] 32 4 =
      some (some ((List.range 40).map UInt8.ofNat), [0, 0, 0, 40]) := by decide +kernel
  have hunnamed : readAfter steady [.begin, .readAt [65] 0 1, .append [66] []] [] 1 1 = some (none, [1]) := by
    decide +kernel
  exact ⟨misreads_of_readAfter hlost (by decide +kernel), misreads_of_readAfter hfailed (by decide +kernel),
    misreads_of_readAfter hunnamed (by decide +kernel)⟩

end HexapodVerified.Config
