import HexapodVerified.Host.Proofs.HilRecordsProofs

/-!
# The host takes a log

The assembler is followed entry by entry: what it has kept of the entries so far is enough to check the
next one, and the next one passes if the log is one that may go on so.
-/

namespace HexapodVerified.Host

open Growth Hil

variable {request : CaptureRequest} {log : List Entry} {entry : Entry} {parsed : ParsedRecord}
  {expected : Option Nat} {a a' : TraceAssembler} {count : Nat} {header : FragmentHeader}

/-- A request that `begin` does not refuse. -/
structure Proper (request : CaptureRequest) : Prop where
  session_id_ne : request.session_id ≠ 0
  capture_id_ne : request.capture_id ≠ 0
  pos : 1 ≤ request.step_count.toNat
  bound : request.step_count ≤ kMaxCaptureSteps

def logicalOf (hproper : Proper request) (count : Nat) (entry : Entry) : LogicalRecord where
  session_id := request.session_id
  capture_id := request.capture_id
  record_seq := UInt32.ofNat (count + 1)
  record_type := entry.type
  logical := entry.bytes request
  session_id_ne := hproper.session_id_ne
  capture_id_ne := hproper.capture_id_ne
  logical_ne := List.ne_nil_of_length_pos (length_entry request entry).1
  logical_lt := Nat.lt_of_le_of_lt (length_entry request entry).2 (by decide)

theorem record_logicalOf (hproper : Proper request) (count : Nat) (entry : Entry) :
    (logicalOf hproper count entry).record = entry.record request count := rfl

theorem fragments_logicalOf (hproper : Proper request) (count : Nat) (entry : Entry) :
    eventCount (logicalOf hproper count entry) = entry.fragments request := by
  have hlen : (logicalOf hproper count entry).logical.length ≤ kMaxLogicalRecordBytes :=
    (length_entry request entry).2
  have hfive := countFor_event hlen
  have hcount : (fragmentCount (UInt16.ofNat (logicalOf hproper count entry).logical.length)).toNat =
      eventCount (logicalOf hproper count entry) := by
    rw [fragmentCount_eq, UInt8.toNat_ofNat', Nat.mod_eq_of_lt (by omega)]
    rfl
  exact hcount.symm

structure Ledger (request : CaptureRequest) (expected : Option Nat) (log : List Entry)
    (a : TraceAssembler) : Prop where
  reassembler : a.reassembler = idle expected
  session : a.expected_session_id = expected
  sequence : a.next_record_seq = log.length + 1
  records : a.records.length = log.length
  fragments : ¬ Ended log → a.fragments_before_end = fragmentTotal request log

structure Content (request : CaptureRequest) (log : List Entry) (a : TraceAssembler) : Prop where
  unbegun : log = [] → a.begin = none
  begin : ∀ revision crc guard, log.head? = some (.begin revision crc guard) →
    ∃ parsed, a.begin = some parsed ∧ Describes request (.begin revision crc guard) (.begin parsed)
  unconfigured : (∀ entry ∈ log, entry.type ≠ .config) → a.config = none
  config : ∀ snapshot, .config snapshot ∈ log →
    ∃ parsed, a.config = some parsed ∧ Describes request (.config snapshot) (.config parsed)
  steps : a.steps.length = stepCount log
  ended : a.end.isSome = true ↔ Ended log

/-- An entry that is neither `Begin` nor `Config` leaves both as they are. -/
theorem Content.concat (h : Content request log a) (hstarted : log ≠ []) (hconfig : entry.type ≠ .config)
    (hbegin' : a'.begin = a.begin) (hconfig' : a'.config = a.config)
    (hsteps : a'.steps.length = stepCount (log ++ [entry]))
    (hended : a'.end.isSome = true ↔ entry.type = .end) : Content request (log ++ [entry]) a' where
  unbegun := fun hnil => absurd hnil (by simp)
  begin := by
    intro revision crc guard hhead
    rw [List.head?_append_of_ne_nil _ hstarted] at hhead
    rw [hbegin']
    exact h.begin revision crc guard hhead
  unconfigured := by
    intro hnone
    rw [hconfig']
    exact h.unconfigured fun entry hentry => hnone entry (List.mem_append_left _ hentry)
  config := by
    intro snapshot hmem
    rw [List.mem_append, List.mem_singleton] at hmem
    rcases hmem with hmem | rfl
    · rw [hconfig']
      exact h.config snapshot hmem
    · exact absurd rfl hconfig
  steps := hsteps
  ended := hended.trans ended_concat.symm

theorem Content.open_of_follows (h : Content request log a) (hfollows : Follows request log entry) :
    a.end = none := by
  have hopen := not_ended_of_follows hfollows
  rw [← h.ended, Bool.not_eq_true, Option.isSome_eq_false_iff, Option.isNone_iff_eq_none] at hopen
  exact hopen

theorem Content.end_iff_of_follows (h : Content request log a) (hfollows : Follows request log entry)
    (hend' : a'.end = a.end) (hentry : entry.type ≠ .end) :
    a'.end.isSome = true ↔ entry.type = .end := by
  rw [hend', h.open_of_follows hfollows]
  exact ⟨nofun, fun hend => absurd hend hentry⟩

/-- Only `Begin` comes first. -/
theorem begin_of_follows_nil (hfollows : Follows request [] entry) :
    ∃ revision crc guard, entry = .begin revision crc guard := by
  cases entry with
  | begin revision crc guard => exact ⟨revision, crc, guard, rfl⟩
  | config snapshot =>
    obtain ⟨_, _, _, hlog⟩ := hfollows
    cases hlog
  | step step_sequence input command =>
    obtain ⟨⟨_, hlast, _⟩, _⟩ := hfollows
    cases hlast
  | marker marker_id now_ms safety_state step_sequence =>
    obtain ⟨_, _, hlast⟩ := hfollows
    cases hlast
  | outputBlocked step_sequence guard =>
    obtain ⟨_, hlast, _⟩ := hfollows
    cases hlast
  | «end» reason recorded_steps queue_high_water record_count fragment_count guard =>
    obtain ⟨⟨_, hlast, _⟩, _⟩ := hfollows
    cases hlast

theorem head_of_trace (htrace : TraceLog request log) (hstarted : log ≠ []) :
    ∃ revision crc guard, log.head? = some (.begin revision crc guard) := by
  cases log with
  | nil => exact absurd rfl hstarted
  | cons first log =>
    have hfollows : Follows request [] first := htrace [] first log rfl
    obtain ⟨revision, crc, guard, rfl⟩ := begin_of_follows_nil hfollows
    exact ⟨revision, crc, guard, rfl⟩

/-- What the assembler does not change when it takes such an entry. -/
structure Keeps (a a' : TraceAssembler) : Prop where
  reassembler : a'.reassembler = a.reassembler
  session : a'.expected_session_id = a.expected_session_id
  begin : a'.begin = a.begin
  sequence : a'.next_record_seq = a.next_record_seq
  records : a'.records = a.records
  fragments : a'.fragments_before_end = a.fragments_before_end

def Accepts (request : CaptureRequest) (log : List Entry) (entry : Entry) (a : TraceAssembler)
    (begin : TraceBegin) (parsed : ParsedRecord) : Prop :=
  ∃ a', a.acceptFollowingRecord begin parsed = (a', .ok ()) ∧ Keeps a a' ∧
    Content request (log ++ [entry]) a'

variable {begin : TraceBegin}

theorem accepts_config (h : Content request log a) {snapshot : Controller.ControllerConfigSnapshot}
    (hhead : ∀ revision crc guard, log.head? = some (.begin revision crc guard) →
      Describes request (.begin revision crc guard) (.begin begin))
    (htaken : Taken request log (.config snapshot)) {parsed : ConfigSnapshot}
    (hdescribes : Describes request (.config snapshot) (.config parsed)) :
    Accepts request log (.config snapshot) a begin (.config parsed) := by
  have hfollows := htaken.follows
  obtain ⟨⟨revision, crc, guard, rfl⟩, -, guard', hsame⟩ := htaken
  obtain ⟨hrevision, hvalid, hpersistent, hcrc⟩ := hdescribes
  obtain ⟨-, -, hrevision', hcrc', -⟩ := hhead revision crc guard rfl
  simp only [List.head?_cons, Option.some.injEq, Entry.begin.injEq] at hsame
  obtain ⟨rfl, rfl, -⟩ := hsame
  have hnone : a.config = none := by
    refine h.unconfigured fun entry hentry => ?_
    obtain rfl := List.mem_singleton.mp hentry
    exact nofun
  have hsteps : a.steps = [] := List.eq_nil_of_length_eq_zero h.steps
  have hfirst : ¬ (a.config.isSome ∨ a.steps ≠ []) := by
    rw [hnone, hsteps]
    simp
  refine ⟨{ a with config := some parsed }, ?_, ⟨rfl, rfl, rfl, rfl, rfl, rfl⟩, ?_⟩
  · unfold TraceAssembler.acceptFollowingRecord
    dsimp only
    rw [if_neg hfirst, if_neg (not_not.mpr (hrevision.trans hrevision'.symm)),
      if_neg (not_not.mpr (hcrc.trans hcrc'.symm))]
  · exact
      { unbegun := nofun
        begin := h.begin
        unconfigured := fun hnot => absurd rfl (hnot (.config snapshot) (by simp))
        config := by
          intro other hmem
          have hother : other = snapshot := by simpa using hmem
          exact ⟨parsed, rfl, hother ▸ ⟨hrevision, hvalid, hpersistent, hcrc⟩⟩
        steps := h.steps
        ended := (h.end_iff_of_follows hfollows rfl nofun).trans ended_concat.symm }

theorem accepts_step (h : Content request log a)
    (hrequested : begin.requested_steps = request.step_count.toNat) {step_sequence : UInt32}
    {input : ControllerStepInput} {command : Controller.RobotCommand}
    (htaken : Taken request log (.step step_sequence input command)) {parsed : ControllerStep}
    (hdescribes : Describes request (.step step_sequence input command) (.step parsed)) :
    Accepts request log (.step step_sequence input command) a begin (.step parsed) := by
  have hfollows := htaken.follows
  obtain ⟨⟨-, hsequence, hroom, -⟩, snapshot, hmem, hrevision, hvalid, hpersistent⟩ := htaken
  obtain ⟨hsequence', hrevision', hvalid', hpersistent'⟩ := hdescribes
  obtain ⟨config, hconfig, hrevision'', hvalid'', hpersistent'', -⟩ := h.config snapshot hmem
  have hsame : ¬ (parsed.config.revision ≠ config.revision ∨ parsed.config.valid ≠ config.valid ∨
      parsed.config.persistent ≠ config.persistent) := by
    rw [hrevision', hvalid', hpersistent', hrevision'', hvalid'', hpersistent'', hrevision, hvalid,
      hpersistent]
    simp
  refine ⟨{ a with steps := a.steps ++ [parsed] }, ?_, ⟨rfl, rfl, rfl, rfl, rfl, rfl⟩, ?_⟩
  · unfold TraceAssembler.acceptFollowingRecord
    rw [hconfig]
    dsimp only
    rw [if_neg hsame, if_neg (by rw [hsequence', hsequence, h.steps]; exact not_not.mpr rfl),
      if_neg (by rw [h.steps, hrequested]; exact Nat.not_le.mpr hroom)]
  · refine h.concat (List.ne_nil_of_mem hmem) nofun rfl rfl ?_ (h.end_iff_of_follows hfollows rfl nofun)
    rw [stepCount_concat, List.length_append, h.steps]
    rfl

theorem requireExistingStep_eq (h : Content request log a) {step_sequence : Nat}
    (hpos : 0 < stepCount log) (hsequence : step_sequence = stepCount log) (name : String) :
    a.requireExistingStep step_sequence name = .ok () := by
  unfold TraceAssembler.requireExistingStep
  rw [if_pos]
  rw [h.steps]
  omega

theorem Content.concat_of_step (h : Content request log a) (hfollows : Follows request log entry)
    (hpos : 0 < stepCount log) (hconfig : entry.type ≠ .config) (hstep : entry.type ≠ .step)
    (hend : entry.type ≠ .end) (hbegin' : a'.begin = a.begin) (hconfig' : a'.config = a.config)
    (hsteps' : a'.steps = a.steps) (hend' : a'.end = a.end) :
    Content request (log ++ [entry]) a' := by
  have hstarted : log ≠ [] := by
    rintro rfl
    exact absurd hpos (Nat.lt_irrefl 0)
  refine h.concat hstarted hconfig hbegin' hconfig' ?_ (h.end_iff_of_follows hfollows hend' hend)
  rw [stepCount_concat, if_neg hstep, hsteps']
  exact h.steps

theorem accepts_marker (h : Content request log a) (htrace : TraceLog request log)
    {marker_id now_ms step_sequence : UInt32} {safety_state : UInt8}
    (hfollows : Follows request log (.marker marker_id now_ms safety_state step_sequence))
    {parsed : TraceMarker} (hsequence : parsed.step_sequence = step_sequence.toNat) :
    Accepts request log (.marker marker_id now_ms safety_state step_sequence) a begin
      (.marker parsed) := by
  obtain ⟨input, command, hlast⟩ := id hfollows
  obtain ⟨hpos, hstep⟩ := stepBefore_eq htrace _ step_sequence hlast rfl
  refine ⟨{ a with markers := a.markers ++ [parsed] }, ?_, ⟨rfl, rfl, rfl, rfl, rfl, rfl⟩, ?_⟩
  · unfold TraceAssembler.acceptFollowingRecord
    dsimp only
    rw [requireExistingStep_eq h hpos (hsequence.trans hstep)]
  · exact h.concat_of_step hfollows hpos nofun nofun nofun rfl rfl rfl rfl

theorem accepts_outputBlocked (h : Content request log a) (htrace : TraceLog request log)
    {step_sequence : UInt32} {guard : Hil.OutputGuardStatus}
    (hfollows : Follows request log (.outputBlocked step_sequence guard))
    {parsed : OutputBlocked} (hsequence : parsed.step_sequence = step_sequence.toNat) :
    Accepts request log (.outputBlocked step_sequence guard) a begin (.outputBlocked parsed) := by
  obtain ⟨last, hlast, hbefore⟩ := id hfollows
  obtain ⟨hpos, hstep⟩ := stepBefore_eq htrace _ step_sequence hlast hbefore
  refine ⟨{ a with output_blocked := a.output_blocked ++ [parsed] }, ?_,
    ⟨rfl, rfl, rfl, rfl, rfl, rfl⟩, ?_⟩
  · unfold TraceAssembler.acceptFollowingRecord
    dsimp only
    rw [requireExistingStep_eq h hpos (hsequence.trans hstep)]
  · exact h.concat_of_step hfollows hpos nofun nofun nofun rfl rfl rfl rfl

theorem accepts_end (h : Content request log a)
    (hrequested : begin.requested_steps = request.step_count.toNat)
    (hrecords : a.records.length = log.length)
    (hfragments : a.fragments_before_end = fragmentTotal request log)
    {reason : Hil.CaptureEndReason} {recorded_steps queue_high_water : UInt8}
    {record_count fragment_count : UInt32} {guard : Hil.OutputGuardStatus}
    (htaken : Taken request log
      (.end reason recorded_steps queue_high_water record_count fragment_count guard))
    {parsed : TraceEnd}
    (hdescribes : Describes request
      (.end reason recorded_steps queue_high_water record_count fragment_count guard) (.end parsed)) :
    Accepts request log (.end reason recorded_steps queue_high_water record_count fragment_count guard)
      a begin (.end parsed) := by
  obtain ⟨⟨-, hsteps, hcount⟩, ⟨snapshot, hmem⟩, htotal, hcomplete⟩ := htaken
  obtain ⟨hreason, hrequested', hrecorded, hcount', hfragments'⟩ := hdescribes
  obtain ⟨config, hconfig, -⟩ := h.config snapshot hmem
  have hall : ¬ (parsed.reason = .complete ∧ parsed.recorded_steps ≠ parsed.requested_steps) := by
    rintro ⟨hdone, hmissing⟩
    have hdone' : reason = .complete := by
      rw [hreason] at hdone
      cases reason <;> first | rfl | cases hdone
    rw [hrecorded, hrequested', hcomplete hdone'] at hmissing
    exact hmissing rfl
  have hvalid : a.validateEnd begin parsed = .ok () := by
    unfold TraceAssembler.validateEnd
    rw [if_neg (not_not.mpr (hrequested'.trans hrequested.symm)),
      if_neg (not_not.mpr (by rw [hrecorded, hsteps, h.steps])),
      if_neg (not_not.mpr (by rw [hcount', hcount, hrecords])),
      if_neg (not_not.mpr (by rw [hfragments', htotal, hfragments])), if_neg hall]
  refine ⟨{ a with «end» := some parsed }, ?_, ⟨rfl, rfl, rfl, rfl, rfl, rfl⟩, ?_⟩
  · unfold TraceAssembler.acceptFollowingRecord
    dsimp only
    rw [hconfig, if_neg (by simp), hvalid]
  · refine h.concat (List.ne_nil_of_mem hmem) nofun rfl rfl ?_ ⟨fun _ => rfl, fun _ => rfl⟩
    rw [stepCount_concat]
    exact h.steps

structure Assembled (request : CaptureRequest) (expected : Option Nat) (log : List Entry)
    (a : TraceAssembler) : Prop extends Ledger request expected log a, Content request log a

theorem fragmentTotal_concat (request : CaptureRequest) (log : List Entry) (entry : Entry) :
    fragmentTotal request (log ++ [entry]) = fragmentTotal request log + entry.fragments request := by
  unfold fragmentTotal
  rw [List.map_append, List.map_singleton, List.sum_append, List.sum_singleton]

theorem Ledger.noteRecord (h : Ledger request expected log a)
    (hkeeps : Keeps { a with next_record_seq := a.next_record_seq + 1 } a') (hopen : ¬ Ended log)
    (hcount : header.fragment_count = entry.fragments request)
    (hdescribes : Describes request entry parsed) :
    Ledger request expected (log ++ [entry]) (a'.noteRecord header parsed) := by
  have hsequence : a'.next_record_seq = (log ++ [entry]).length + 1 := by
    rw [hkeeps.sequence, h.sequence, List.length_append, List.length_singleton]
  have hrecords : (a'.records ++ [parsed]).length = (log ++ [entry]).length := by
    rw [hkeeps.records, List.length_append, h.records, List.length_append, List.length_singleton,
      List.length_singleton]
  have hreassembler := hkeeps.reassembler.trans h.reassembler
  have hsession := hkeeps.session.trans h.session
  have hfragments : a'.fragments_before_end + header.fragment_count =
      fragmentTotal request (log ++ [entry]) := by
    rw [hkeeps.fragments, h.fragments hopen, hcount, fragmentTotal_concat]
  cases parsed with
  | «end» last =>
    have hend : entry.type = .end := by
      cases entry with
      | «end» => rfl
      | _ => exact hdescribes.elim
    exact ⟨hreassembler, hsession, hsequence, hrecords,
      fun hnot => absurd (ended_concat.mpr hend) hnot⟩
  | _ => exact ⟨hreassembler, hsession, hsequence, hrecords, fun _ => hfragments⟩

theorem Content.noteRecord (h : Content request log a) (header : FragmentHeader)
    (parsed : ParsedRecord) : Content request log (a.noteRecord header parsed) := by
  cases parsed <;>
    exact ⟨h.unbegun, h.begin, h.unconfigured, h.config, h.steps, h.ended⟩

theorem accepts_of_taken (h : Content request log a) (htrace : TraceLog request log)
    (htaken : Taken request log entry) (hdescribes : Describes request entry parsed)
    (hstarted : log ≠ [])
    (hhead : ∀ revision crc guard, log.head? = some (.begin revision crc guard) →
      Describes request (.begin revision crc guard) (.begin begin))
    (hrecords : a.records.length = log.length)
    (hfragments : a.fragments_before_end = fragmentTotal request log) :
    Accepts request log entry a begin parsed := by
  have hrequested : begin.requested_steps = request.step_count.toNat := by
    obtain ⟨revision, crc, guard, hfirst⟩ := head_of_trace htrace hstarted
    exact (hhead revision crc guard hfirst).2.2.2.2
  cases entry with
  | begin revision crc guard => exact absurd htaken.follows hstarted
  | config snapshot =>
    cases parsed with
    | config parsed => exact accepts_config h hhead htaken hdescribes
    | _ => exact hdescribes.elim
  | step step_sequence input command =>
    cases parsed with
    | step parsed => exact accepts_step h hrequested htaken hdescribes
    | _ => exact hdescribes.elim
  | marker marker_id now_ms safety_state step_sequence =>
    cases parsed with
    | marker parsed => exact accepts_marker h htrace htaken.follows hdescribes
    | _ => exact hdescribes.elim
  | outputBlocked step_sequence guard =>
    cases parsed with
    | outputBlocked parsed => exact accepts_outputBlocked h htrace htaken.follows hdescribes
    | _ => exact hdescribes.elim
  | «end» reason recorded_steps queue_high_water record_count fragment_count guard =>
    cases parsed with
    | «end» parsed => exact accepts_end h hrequested hrecords hfragments htaken hdescribes
    | _ => exact hdescribes.elim

theorem acceptRecord_begin (h : Assembled request expected [] a)
    (hexpected : ∀ session ∈ expected, session = request.session_id.toNat)
    (hsequence : header.record_seq = 1) {revision : UInt32} {crc : UInt16}
    {guard : Hil.OutputGuardStatus}
    (hcount : header.fragment_count = (Entry.begin revision crc guard).fragments request)
    (hdescribes : Describes request (.begin revision crc guard) parsed) (payload : List UInt8) :
    ∃ a', a.acceptRecord { header, payload } parsed = (a', .ok ()) ∧
      Assembled request expected [.begin revision crc guard] a' := by
  cases parsed with
  | begin first =>
    have hsession : ¬ a.expected_session_id.any fun session => first.session_id ≠ session := by
      rw [h.session]
      cases expected with
      | none => exact Bool.false_ne_true
      | some session =>
        rw [Option.any_some, decide_eq_true_eq, hexpected session rfl]
        exact not_not.mpr hdescribes.1
    have hnext : ¬ header.record_seq ≠ a.next_record_seq := by
      rw [hsequence, h.sequence]
      exact not_not.mpr rfl
    let opened : TraceAssembler := { a with begin := some first }
    have hledger : Ledger request expected [] opened :=
      ⟨h.reassembler, h.session, h.sequence, h.records, h.fragments⟩
    have hkeeps : Keeps { opened with next_record_seq := opened.next_record_seq + 1 }
        { opened with next_record_seq := opened.next_record_seq + 1 } :=
      ⟨rfl, rfl, rfl, rfl, rfl, rfl⟩
    refine ⟨_, ?_, hledger.noteRecord hkeeps not_ended_nil hcount hdescribes, ?_⟩
    · unfold TraceAssembler.acceptRecord
      rw [if_neg hnext, h.unbegun rfl]
      exact if_neg hsession
    · refine Content.noteRecord ?_ _ _
      exact
        { unbegun := nofun
          begin := by
            intro revision' crc' guard' hhead
            have hsame := Option.some.inj hhead
            exact ⟨first, rfl, hsame ▸ hdescribes⟩
          unconfigured := fun _ =>
            h.unconfigured fun entry hentry => absurd hentry List.not_mem_nil
          config := fun snapshot hmem => absurd (List.mem_singleton.mp hmem) nofun
          steps := h.steps
          ended := by
            refine h.ended.trans ⟨fun hended => absurd hended not_ended_nil, ?_⟩
            rintro ⟨last, hlast, hend⟩
            obtain rfl := Option.some.inj hlast
            cases hend }
  | _ => exact hdescribes.elim

theorem acceptRecord_entry (h : Assembled request expected log a) (hproper : Proper request)
    (htrace : TraceLog request log) (htaken : Taken request log entry)
    (hexpected : ∀ session ∈ expected, session = request.session_id.toNat)
    (hdescribes : Describes request entry parsed) :
    ∃ a', a.acceptRecord (hostRecord (logicalOf hproper log.length entry)) parsed = (a', .ok ()) ∧
      Assembled request expected (log ++ [entry]) a' := by
  have hsequence : (headerOf (logicalOf hproper log.length entry) 0).record_seq = log.length + 1 := by
    show (UInt32.ofNat (log.length + 1)).toNat = _
    rw [UInt32.toNat_ofNat']
    exact Nat.mod_eq_of_lt
      (Nat.lt_of_le_of_lt (Nat.succ_le_succ (length_log_lt htrace hproper.bound)) (by decide))
  have hcount : (headerOf (logicalOf hproper log.length entry) 0).fragment_count =
      entry.fragments request := fragments_logicalOf ..
  have hopen := not_ended_of_follows htaken.follows
  by_cases hstarted : log = []
  · subst hstarted
    obtain ⟨revision, crc, guard, rfl⟩ := begin_of_follows_nil htaken.follows
    exact acceptRecord_begin h hexpected hsequence hcount hdescribes _
  · obtain ⟨revision, crc, guard, hhead⟩ := head_of_trace htrace hstarted
    obtain ⟨first, hfirst, hbegin⟩ := h.begin revision crc guard hhead
    have hcontent : Content request log { a with next_record_seq := a.next_record_seq + 1 } :=
      ⟨h.unbegun, h.begin, h.unconfigured, h.config, h.steps, h.ended⟩
    have hhead' (revision' : UInt32) (crc' : UInt16) (guard' : Hil.OutputGuardStatus)
        (hsame : log.head? = some (.begin revision' crc' guard')) :
        Describes request (.begin revision' crc' guard') (.begin first) := by
      rw [hhead, Option.some.injEq] at hsame
      exact hsame ▸ hbegin
    obtain ⟨a', haccept, hkeeps, hafter⟩ := accepts_of_taken hcontent htrace htaken hdescribes hstarted
      hhead' h.records (h.fragments hopen)
    refine ⟨_, ?_, h.toLedger.noteRecord hkeeps hopen hcount hdescribes, hafter.noteRecord _ _⟩
    have hsame : ¬ ((headerOf (logicalOf hproper log.length entry) 0).session_id ≠ first.session_id ∨
        (headerOf (logicalOf hproper log.length entry) 0).capture_id ≠ first.capture_id) := by
      rw [hbegin.1, hbegin.2.1]
      exact not_or.mpr ⟨not_not.mpr rfl, not_not.mpr rfl⟩
    unfold TraceAssembler.acceptRecord hostRecord
    rw [if_neg (by rw [hsequence, h.sequence]; exact not_not.mpr rfl), hfirst]
    dsimp only
    rw [if_neg hsame]
    cases parsed with
    | begin other =>
      cases entry with
      | begin revision' crc' guard' => exact absurd htaken.follows hstarted
      | _ => exact hdescribes.elim
    | _ =>
      rw [← hfirst]
      rw [haccept]

theorem legible_of_taken (hproper : Proper request) (htrace : TraceLog request log)
    (htaken : Taken request log entry) : Legible request entry := by
  cases entry with
  | begin revision crc guard => exact ⟨hproper.pos, UInt8.le_iff_toNat_le.mp hproper.bound⟩
  | config snapshot => exact htaken.agrees.1
  | step step_sequence input command => exact htaken.follows.2.2.2
  | «end» reason recorded_steps queue_high_water record_count fragment_count guard =>
    have hsteps : recorded_steps.toNat = stepCount log := htaken.follows.2.1
    show recorded_steps.toNat ≤ _
    rw [hsteps]
    exact stepCount_le htrace
  | _ => trivial

theorem acceptEvents_entry (h : Assembled request expected log a) (hproper : Proper request)
    (htrace : TraceLog request log) (htaken : Taken request log entry)
    (hexpected : ∀ session ∈ expected, session = request.session_id.toNat) :
    ∃ a', Assembled request expected (log ++ [entry]) a' ∧ ∀ events,
      a.acceptEvents (eventsOf (logicalOf hproper log.length entry) ++ events) =
        a'.acceptEvents events := by
  obtain ⟨parsed, hdescribes, hparse⟩ := @parseRecord_entry request
    (headerOf (logicalOf hproper log.length entry) 0) rfl rfl entry rfl
    (legible_of_taken hproper htrace htaken) rfl
  obtain ⟨a', haccept, hafter⟩ := acceptRecord_entry h hproper htrace htaken hexpected hdescribes
  refine ⟨a', hafter, fun events => ?_⟩
  exact acceptEvents_eventsOf (length_entry request entry).2 (h.toContent.open_of_follows htaken.follows)
    h.reassembler hexpected hparse haccept events

theorem hostEvents_concat (hproper : Proper request) {records : List Record}
    {events : List (Nat × List UInt8)} (hevents : hostEvents records = some events)
    (count : Nat) (entry : Entry) :
    hostEvents (records ++ [entry.record request count]) =
      some (events ++ eventsOf (logicalOf hproper count entry)) := by
  obtain ⟨sent, hsent, rfl⟩ := Option.map_eq_some_iff.mp hevents
  have hrecord := @recordEvents_eq (logicalOf hproper count entry) (length_entry request entry).2
  rw [record_logicalOf] at hrecord
  unfold hostEvents
  rw [List.mapM_append, hsent, List.mapM_cons, hrecord]
  simp only [List.mapM_nil, Option.pure_def, Option.bind_eq_bind, Option.bind_some, Option.map_some,
    List.flatten_append, List.flatten_cons, List.flatten_nil, List.append_nil, List.map_append,
    List.map_map]
  rfl

theorem assembled_nil (expected : Option Nat) (request : CaptureRequest) :
    Assembled request expected []
      { reassembler := idle expected, expected_session_id := expected } where
  reassembler := rfl
  session := rfl
  sequence := rfl
  records := rfl
  fragments := fun _ => rfl
  unbegun := fun _ => rfl
  begin := nofun
  unconfigured := fun _ => rfl
  config := nofun
  steps := rfl
  ended := ⟨nofun, fun hended => absurd hended not_ended_nil⟩

theorem acceptEvents_log (hproper : Proper request) (hlog : Grown (Taken request) log)
    (hexpected : ∀ session ∈ expected, session = request.session_id.toNat) :
    ∃ sent a, hostEvents (recordsOf request log) = some sent ∧ Assembled request expected log a ∧
      ∀ events, TraceAssembler.acceptEvents
        { reassembler := idle expected, expected_session_id := expected } (sent ++ events) =
          a.acceptEvents events := by
  refine hlog.rec_on ⟨[], _, rfl, assembled_nil expected request, fun _ => rfl⟩
    fun log entry hlog htaken ih => ?_
  obtain ⟨sent, a, hsent, hassembled, hrun⟩ := ih
  have htrace : TraceLog request log := hlog.imp fun _ _ _ htaken => htaken.follows
  obtain ⟨a', hassembled', hrun'⟩ := acceptEvents_entry hassembled hproper htrace htaken hexpected
  refine ⟨sent ++ eventsOf (logicalOf hproper log.length entry), a', ?_, hassembled', fun events => ?_⟩
  · rw [recordsOf_concat]
    exact hostEvents_concat hproper hsent log.length entry
  · rw [List.append_assoc, hrun, hrun']

theorem config_of_ended (hlog : Grown (Taken request) log) (hended : Ended log) :
    ∃ snapshot, .config snapshot ∈ log := by
  obtain ⟨last, hlast, hend⟩ := hended
  obtain ⟨earlier, rfl⟩ := List.getLast?_eq_some_iff.mp hlast
  have htaken : Taken request earlier last := hlog.admitted
  cases last with
  | «end» reason recorded_steps queue_high_water record_count fragment_count guard =>
    obtain ⟨snapshot, hmem⟩ := htaken.agrees.1
    exact ⟨snapshot, List.mem_append_left _ hmem⟩
  | _ => cases hend

/-- **The host takes every finished log of this kind.** -/
theorem hostAssembles_log (hproper : Proper request) (hlog : Grown (Taken request) log)
    (hended : Ended log) (hexpected : ∀ session ∈ expected, session = request.session_id.toNat) :
    ∃ trace, HostAssembles expected (recordsOf request log) trace ∧
      trace.records.length = log.length := by
  obtain ⟨sent, a, hsent, hassembled, hrun⟩ := acceptEvents_log hproper hlog hexpected
  have htrace : TraceLog request log := hlog.imp fun _ _ _ htaken => htaken.follows
  have hstarted : log ≠ [] := by
    rintro rfl
    exact not_ended_nil hended
  obtain ⟨revision, crc, guard, hhead⟩ := head_of_trace htrace hstarted
  obtain ⟨begin, hbegin, -⟩ := hassembled.begin revision crc guard hhead
  obtain ⟨snapshot, hmem⟩ := config_of_ended hlog hended
  obtain ⟨config, hconfig, -⟩ := hassembled.config snapshot hmem
  obtain ⟨last, hlast⟩ := Option.isSome_iff_exists.mp (hassembled.ended.mpr hended)
  have hnew : TraceAssembler.new expected =
      .ok { reassembler := idle expected, expected_session_id := expected } := by
    refine if_neg fun hzero => ?_
    have hzero' := hexpected 0 hzero
    exact hproper.session_id_ne (UInt32.toNat_inj.mp hzero'.symm)
  obtain ⟨trace, hfinal, hrecords⟩ : ∃ trace, a.finalize = .ok trace ∧ trace.records = a.records := by
    unfold TraceAssembler.finalize
    rw [hbegin, hconfig, hlast]
    exact ⟨_, rfl, rfl⟩
  have hall := hrun []
  rw [List.append_nil] at hall
  refine ⟨trace, ⟨sent, _, a, hsent, hnew, hall, hfinal⟩, ?_⟩
  rw [hrecords]
  exact hassembled.records

end HexapodVerified.Host
