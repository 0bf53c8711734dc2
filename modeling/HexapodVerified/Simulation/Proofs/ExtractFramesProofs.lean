import HexapodVerified.Companion.Proofs.FrameExtractorProofs
import HexapodVerified.Simulation.SimulatedFirmware

/-!
# Every other run is lost

The simulated firmware takes the delimiters in pairs, an opening and a closing one. What stands between the
closing one of a frame and the opening one of the next is thrown away, although the frame reader of the controller
would deliver it.
-/

namespace HexapodVerified.Simulation

open Companion.FrameExtractor Delimited Protocol

/-- What the buffer holds between two calls: nothing, or an opening delimiter and the run behind it. -/
inductive SplitState where
  | outside
  | inside (run : List UInt8)

def SplitState.buffer : SplitState → List UInt8
  | .outside => []
  | .inside run => 0 :: run

def splitStep : SplitState → UInt8 → SplitState × List (List UInt8)
  | .outside, byte => if byte = 0 then (.inside [], []) else (.outside, [])
  | .inside run, byte =>
    if byte = 0 then (.outside, [bounded run]) else (.inside (run ++ [byte]), [])

variable {run rest bytes : List UInt8} {byte : UInt8}

theorem fromZero_cons_of_ne (hbyte : byte ≠ 0) (rest : List UInt8) : fromZero (byte :: rest) = fromZero rest :=
  List.dropWhile_cons_of_pos (bne_iff_ne.mpr hbyte)

theorem fromZero_zero (rest : List UInt8) : fromZero (0 :: rest) = 0 :: rest :=
  List.dropWhile_cons_of_neg (by decide)

theorem extractFrames_nil : extractFrames [] = ([], []) := by
  unfold extractFrames
  rfl

theorem extractFrames_congr {buffer buffer' : List UInt8} (hsame : fromZero buffer = fromZero buffer') :
    extractFrames buffer = extractFrames buffer' := by
  rw [extractFrames.eq_def buffer, extractFrames.eq_def buffer', hsame]

theorem extractFrames_open (hopen : 0 ∉ run) : extractFrames (0 :: run) = ([], 0 :: run) := by
  rw [extractFrames.eq_def, fromZero_zero]
  exact if_neg hopen

theorem extractFrames_frame (hrun : 0 ∉ run) (rest : List UInt8) : extractFrames (0 :: run ++ 0 :: rest) =
    (bounded run :: (extractFrames rest).1, (extractFrames rest).2) := by
  have hzero : (0 : UInt8) ∈ run ++ 0 :: rest := List.mem_append_right _ (List.mem_cons_self ..)
  have hall : ∀ byte ∈ run, (byte != 0) = true := fun byte hbyte => bne_iff_ne.mpr fun heq => hrun (heq ▸ hbyte)
  have hbody : (run ++ 0 :: rest).takeWhile (· != 0) = run := by
    rw [List.takeWhile_append_of_pos hall, List.takeWhile_cons_of_neg (by decide), List.append_nil]
  have hrest : (run ++ 0 :: rest).drop (run.length + 1) = rest := by
    rw [List.drop_append, List.drop_of_length_le (Nat.le_succ _)]
    simp
  rw [extractFrames.eq_def, List.cons_append, fromZero_zero]
  dsimp only
  rw [if_pos hzero, hbody, hrest]
  rfl

theorem splitStep_nonzero {state : SplitState} (hstate : ∀ run, state = .inside run → 0 ∉ run) (byte : UInt8) :
    ∀ run, (splitStep state byte).1 = .inside run → 0 ∉ run := by
  intro run' hnext
  unfold splitStep at hnext
  cases state with
  | outside =>
    by_cases hbyte : byte = 0
    · rw [hbyte] at hnext
      cases hnext
      exact List.not_mem_nil
    · dsimp only at hnext
      rw [if_neg hbyte] at hnext
      cases hnext
  | inside run =>
    by_cases hbyte : byte = 0
    · rw [hbyte] at hnext
      cases hnext
    · dsimp only at hnext
      rw [if_neg hbyte] at hnext
      cases hnext
      intro hmem
      rcases List.mem_append.mp hmem with hin | hin
      · exact hstate run rfl hin
      · exact hbyte (List.mem_singleton.mp hin).symm

/-- One byte more in the buffer is one step of the split. -/
theorem extractFrames_step {state : SplitState} (hstate : ∀ run, state = .inside run → 0 ∉ run) (byte : UInt8)
    (bytes : List UInt8) : extractFrames (state.buffer ++ byte :: bytes) =
      ((splitStep state byte).2 ++ (extractFrames ((splitStep state byte).1.buffer ++ bytes)).1,
        (extractFrames ((splitStep state byte).1.buffer ++ bytes)).2) := by
  cases state with
  | outside =>
    by_cases hbyte : byte = 0
    · subst hbyte
      rfl
    · have hstep : splitStep .outside byte = (.outside, []) := if_neg hbyte
      rw [hstep]
      exact extractFrames_congr (fromZero_cons_of_ne hbyte bytes)
  | inside run =>
    by_cases hbyte : byte = 0
    · subst hbyte
      exact extractFrames_frame (hstate run rfl) bytes
    · have hstep : splitStep (.inside run) byte = (.inside (run ++ [byte]), []) := if_neg hbyte
      have hbuffer : (SplitState.inside run).buffer ++ byte :: bytes =
          (SplitState.inside (run ++ [byte])).buffer ++ bytes := by
        show 0 :: (run ++ byte :: bytes) = 0 :: (run ++ [byte] ++ bytes)
        rw [List.append_assoc, List.singleton_append]
      rw [hstep, hbuffer]
      rfl

theorem extractFrames_scan (state : SplitState) (hstate : ∀ run, state = .inside run → 0 ∉ run) (bytes : List UInt8) :
    extractFrames (state.buffer ++ bytes) =
      ((scan splitStep state bytes).2, (scan splitStep state bytes).1.buffer) ∧
      ∀ run, (scan splitStep state bytes).1 = .inside run → 0 ∉ run := by
  induction bytes generalizing state with
  | nil =>
    refine ⟨?_, hstate⟩
    rw [List.append_nil]
    cases state with
    | outside => exact extractFrames_nil
    | inside run => exact extractFrames_open (hstate run rfl)
  | cons byte bytes ih =>
    obtain ⟨hrest, hlast⟩ := ih _ (splitStep_nonzero hstate byte)
    refine ⟨?_, hlast⟩
    rw [extractFrames_step hstate, hrest]
    rfl

/-- How a stream is cut into chunks does not matter. -/
theorem serveFrames_scan (state : SplitState) (hstate : ∀ run, state = .inside run → 0 ∉ run) (first : List UInt8)
    (chunks : List (List UInt8)) : (serveFrames (state.buffer ++ first) chunks).1 =
      (scan splitStep state (first ++ chunks.flatten)).2 := by
  induction chunks generalizing state first with
  | nil =>
    rw [List.flatten_nil, List.append_nil]
    unfold serveFrames
    rw [(extractFrames_scan state hstate first).1]
  | cons chunk chunks ih =>
    obtain ⟨hfirst, hnext⟩ := extractFrames_scan state hstate first
    unfold serveFrames
    rw [hfirst]
    dsimp only
    rw [ih _ hnext chunk, List.flatten_cons, scan_append splitStep state first]

theorem scan_alternate (stream : List UInt8) :
    (scan splitStep .outside stream).2 = (alternate (ended 0 stream).tail).map bounded ∧
      (scan splitStep .outside stream).1 =
        if (ended 0 stream).length % 2 = 0 then .outside else .inside (openRun 0 stream) := by
  induction stream using List.reverseRecOn with
  | nil => exact ⟨rfl, rfl⟩
  | append_singleton stream byte ih =>
    obtain ⟨hframes, hstate⟩ := ih
    rw [scan_concat, hframes, hstate]
    by_cases hbyte : byte = 0
    · subst hbyte
      obtain ⟨hended, hopen⟩ := ended_concat_self 0 stream
      rw [hended, hopen]
      generalize openRun 0 stream = run
      cases ended 0 stream with
      | nil => exact ⟨rfl, rfl⟩
      | cons first runs =>
        have hlength : (first :: runs ++ [run]).length = runs.length + 2 := by simp
        rw [hlength, List.length_cons, List.cons_append, List.tail_cons, List.tail_cons, alternate_concat]
        by_cases heven : runs.length % 2 = 0
        · have hodd : ¬ (runs.length + 1) % 2 = 0 := by omega
          rw [if_neg hodd, if_pos heven, if_pos (by omega), List.map_append]
          exact ⟨rfl, rfl⟩
        · have hodd : (runs.length + 1) % 2 = 0 := by omega
          rw [if_pos hodd, if_neg heven, if_neg (by omega)]
          exact ⟨List.append_nil _, rfl⟩
    · obtain ⟨hended, hopen⟩ := ended_concat_of_ne hbyte stream
      rw [hended, hopen]
      by_cases heven : (ended 0 stream).length % 2 = 0
      · rw [if_pos heven, if_pos heven]
        unfold splitStep
        dsimp only
        rw [if_neg hbyte]
        exact ⟨List.append_nil _, rfl⟩
      · rw [if_neg heven, if_neg heven]
        unfold splitStep
        dsimp only
        rw [if_neg hbyte]
        exact ⟨List.append_nil _, rfl⟩

theorem fromZero_cases (stream : List UInt8) :
    (0 ∉ stream ∧ fromZero stream = []) ∨
      ∃ garbage rest, 0 ∉ garbage ∧ stream = garbage ++ 0 :: rest ∧ fromZero stream = 0 :: rest := by
  have hsplit : stream.takeWhile (· != 0) ++ fromZero stream = stream := List.takeWhile_append_dropWhile
  have hgarbage : 0 ∉ stream.takeWhile (· != 0) := by
    intro hmem
    have hne : ((0 : UInt8) != 0) = true := List.mem_takeWhile_imp (p := fun byte : UInt8 => byte != 0) hmem
    cases hne
  cases hfrom : fromZero stream with
  | nil =>
    rw [hfrom, List.append_nil] at hsplit
    exact .inl ⟨hsplit ▸ hgarbage, rfl⟩
  | cons zero rest =>
    have hzero : zero = 0 := by
      have hhead := List.head?_dropWhile_not (· != 0) stream
      have hcons : stream.dropWhile (· != 0) = zero :: rest := hfrom
      rw [hcons] at hhead
      simpa using hhead
    subst hzero
    rw [hfrom] at hsplit
    exact .inr ⟨_, rest, hgarbage, hsplit.symm, rfl⟩

/-- From the first delimiter on, the frame reader delivers the runs that are enclosed by two. -/
theorem receive_fromZero (stream : List UInt8) : (FrameReader.receive {} (fromZero stream)).2 =
    (ended 0 stream).tail.filter fun run => Fits kMaxFrameBodyCobs run := by
  rw [(FrameReader.receive_spec _).2]
  rcases fromZero_cases stream with ⟨hnone, hfrom⟩ | ⟨garbage, rest, hgarbage, hstream, hfrom⟩
  · rw [hfrom, (ended_of_notMem hnone).1]
    rfl
  · have hempty : ended 0 (0 :: rest) = [] :: ended 0 rest := ended_append_cons 0 [] rest
    rw [hfrom, hempty, hstream, ended_append_cons, (ended_concat_self 0 garbage).1, (ended_of_notMem hgarbage).1]
    rfl

theorem bounded_injective : Function.Injective bounded := by
  intro run run' heq
  exact List.append_cancel_right (List.cons.inj heq).2

theorem sublist_map_bounded {runs frames : List (List UInt8)} :
    List.Sublist (runs.map bounded) (frames.map bounded) ↔ List.Sublist runs frames := by
  constructor
  · intro hsub
    obtain ⟨kept, hkept, heq⟩ := List.sublist_map_iff.mp hsub
    rw [List.map_injective_iff.mpr bounded_injective heq]
    exact hkept
  · exact List.Sublist.map bounded

theorem serveFrames_eq (buffer : List UInt8) (chunks : List (List UInt8)) : (serveFrames buffer chunks).1 =
    (alternate (ended 0 (buffer ++ chunks.flatten)).tail).map bounded := by
  have hscan := serveFrames_scan .outside nofun buffer chunks
  rw [(scan_alternate _).1] at hscan
  exact hscan

/-- The bytes behind every other delimiter, from the second on, up to the next one. -/
def between (stream : List UInt8) : List (List UInt8) := alternate (ended 0 stream).tail.tail

/-- The frames between the delimiters of the stream that the frame reader delivers. -/
def enclosed (stream : List UInt8) : List (List UInt8) :=
  (FrameReader.receive {} (fromZero stream)).2.map bounded

/-- A delimiter too many, and a frame behind it. -/
theorem stray_delimiter_loses : ¬ List.Sublist (enclosed ([] ++ [[0], [0, 2, 7, 0]].flatten))
    (serveFrames [] [[0], [0, 2, 7, 0]]).1 := by
  rw [serveFrames_eq]
  decide

/-- The enclosed frames that the frame reader delivers are all served, in order, exactly when nothing that it would
deliver stands between the closing delimiter of one and the opening delimiter of the next. -/
theorem enclosed_served_iff (buffer : List UInt8) (chunks : List (List UInt8)) :
    List.Sublist (enclosed (buffer ++ chunks.flatten)) (serveFrames buffer chunks).1 ↔
      ∀ run ∈ between (buffer ++ chunks.flatten), ¬ Fits kMaxFrameBodyCobs run := by
  unfold enclosed between
  rw [serveFrames_eq, receive_fromZero, sublist_map_bounded, filter_sublist_alternate]
  exact forall₂_congr fun run _ => decide_eq_false_iff_not

end HexapodVerified.Simulation
