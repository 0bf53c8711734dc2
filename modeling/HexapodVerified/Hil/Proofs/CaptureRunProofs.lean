import HexapodVerified.Hil.Proofs.TraceProofs

/-!
# The captures of a run

Of every capture of a run the acknowledged records are the ones of a log, and a record stays in the slot as
it is until it is acknowledged. `reset` and `abandonCurrent` are left out here: they drop records.
-/

namespace HexapodVerified.Hil

open HexapodVerified.Config Growth Transition

def TraceRecorder.currentRecord (r : TraceRecorder) : Record where
  view := r.slot_view
  bytes := r.slot.take r.slot_view.logical_length.toNat

def started (e : RecorderEvent) : Option CaptureRequest :=
  match e.label with
  | (.begin request _ _, .accepted true) => some request
  | _ => none

def acknowledged (e : RecorderEvent) : Option Record :=
  match e.label.1 with
  | .acknowledge view =>
    if e.pre.slot_ready = true ∧ view.record_seq = e.pre.slot_view.record_seq then
      some e.pre.currentRecord
    else none
  | _ => none

structure CaptureRecords where
  request : CaptureRequest
  records : List Record

def addRecord (record : Record) : List CaptureRecords → List CaptureRecords
  | [] => []
  | c :: earlier => { c with records := c.records ++ [record] } :: earlier

def captures : List RecorderEvent → List CaptureRecords
  | [] => []
  | e :: h =>
    match started e with
    | some request => { request, records := [] } :: captures h
    | none =>
      match acknowledged e with
      | some record => addRecord record (captures h)
      | none => captures h

def RecorderCall.ordinary : RecorderCall → Bool
  | .reset => false
  | .abandonCurrent _ _ => false
  | _ => true

def Ordinary (e : RecorderEvent) : Prop := e.label.1.ordinary = true

def HasEnd (c : CaptureRecords) : Prop := ∃ last, c.records.getLast? = some last ∧ last.view.type = .end

variable {request : CaptureRequest} {log : List Entry} {entry : Entry} {slot : Option Entry}
  {r r' : TraceRecorder} {h later : List RecorderEvent} {e : RecorderEvent} {call : RecorderCall}
  {answer : RecorderAnswer} {count : Nat}

theorem length_entry_toNat (request : CaptureRequest) (entry : Entry) :
    (UInt16.ofNat (entry.bytes request).length).toNat = (entry.bytes request).length := by
  have hle : (entry.bytes request).length ≤ 960 := (length_entry request entry).2
  rw [UInt16.toNat_ofNat', Nat.mod_eq_of_lt (by omega)]

theorem currentRecord_eq (hholds : Holds request count entry r) :
    r.currentRecord = entry.record request count := by
  unfold TraceRecorder.currentRecord
  rw [hholds.view]
  show Record.mk _ (r.slot.take (UInt16.ofNat (entry.bytes request).length).toNat) = _
  rw [length_entry_toNat, hholds.bytes]
  rfl

/-- The calls that count neither steps nor fragments. -/
def RecorderCall.quiet : RecorderCall → Bool
  | .captureStep _ _ _ => false
  | .noteFragmentsSent _ => false
  | _ => true

/-- What a call that acknowledges nothing changes beside the log. -/
inductive Shift (slot : Option Entry) (r : TraceRecorder) : RecorderCall → Option Entry → Standing → Prop where
  | same (call : RecorderCall) (hquiet : call.quiet = true) : Shift slot r call slot r.standing
  | stepped (input : ControllerStepInput) (command : Controller.RobotCommand) (guard : OutputGuardStatus)
      (slot' : Option Entry) (s : Standing) (houtcome : StepOutcome slot r input command slot' s) :
      Shift slot r (.captureStep input command guard) slot' s
  | aborted (reason : CaptureEndReason) (guard : OutputGuardStatus) (hlive : Live r) :
      Shift slot r (.abort reason guard) slot (r.standing.finish reason)
  | concluded (entry : Entry) (hslot : slot = none) (hentry : Concludes r.standing entry) :
      Shift slot r .peek (some entry) r.standing
  | noted (count : UInt8) : Shift slot r (.noteFragmentsSent count) slot
      { r.standing with fragments := r.emitted_fragment_count + count.toUInt32 }

structure Begins (request : CaptureRequest) (slot : Option Entry) (s : Standing) : Prop where
  session_id_ne : request.session_id ≠ 0
  capture_id_ne : request.capture_id ≠ 0
  pos : 1 ≤ request.step_count.toNat
  slot : ∃ guard, slot = some (.begin s.config_revision s.config_crc guard)
  active : s.active = true
  terminal : s.terminal = false
  fragments : s.fragments = 0
  config_pending : s.config_pending = true

inductive Advance (request : CaptureRequest) (log : List Entry) (slot : Option Entry)
    (e : RecorderEvent) : Prop where
  | begun (next : CaptureRequest) (hstarted : started e = some next) (hidle : ¬ Live e.pre)
      (slot' : Option Entry) (htracks : Tracks next [] slot' e.post)
      (hbegins : Begins next slot' e.post.standing)
  | sent (entry : Entry) (hslot : slot = some entry) (hstarted : started e = none)
      (hsent : acknowledged e = some (entry.record request log.length)) (slot' : Option Entry)
      (htracks : Tracks request (log ++ [entry]) slot' e.post)
      (hstanding : e.post.standing =
        if entry.type = .end then { e.pre.standing with terminal := false } else e.pre.standing)
      (hnext : ∀ next ∈ slot', (next.type = .marker ∨ next.type = .outputBlocked) ∨
        Concludes e.pre.standing next)
  | kept (hstarted : started e = none) (hsent : acknowledged e = none) (slot' : Option Entry)
      (htracks : Tracks request log slot' e.post) (hslot : slot.isSome = true → slot' = slot)
      (hshift : Shift slot e.pre e.label.1 slot' e.post.standing)

theorem begins_of_not_refused {next : CaptureRequest} (hrefused : ¬ Refused r next)
    (guard : OutputGuardStatus) (config : Option Controller.ControllerConfigSnapshot)
    (slot : List UInt8) :
    Begins next (some (beginEntry guard config))
      (fill next 0 (beginEntry guard config) (begun next guard config slot)).standing := by
  unfold Refused at hrefused
  simp only [not_or] at hrefused
  obtain ⟨-, hsession, hcapture, hpos, -⟩ := hrefused
  exact ⟨hsession, hcapture, UInt8.le_iff_toNat_le.mp (UInt8.not_lt.mp hpos), ⟨guard, rfl⟩, rfl, rfl, rfl,
    rfl⟩

theorem acknowledge_of_refused {view : RecordView}
    (hrefused : ¬ (r.slot_ready = true ∧ view.record_seq = r.slot_view.record_seq)) :
    r.acknowledge view = r := by
  refine if_pos ?_
  rw [Bool.or_eq_true, Bool.not_eq_true', bne_iff_ne, ne_eq]
  rcases Classical.not_and_iff_not_or_not.mp hrefused with hnot | hnot
  · exact .inl (Bool.eq_false_of_not_eq_true hnot)
  · exact .inr hnot

theorem shift_abort (slot : Option Entry) (r : TraceRecorder) (reason : CaptureEndReason)
    (guard : OutputGuardStatus) :
    Shift slot r (.abort reason guard) slot (r.abort reason guard).standing := by
  obtain ⟨-, heq⟩ | ⟨hlive, heq⟩ := abort_cases r reason guard
  · rw [heq]
    exact .same _ rfl
  · rw [heq]
    exact .aborted reason guard hlive

theorem advance_of_call (htracks : Tracks request log slot r) (hordinary : Ordinary ⟨r, (call, answer), r'⟩)
    (hstep : r.call call = (r', answer)) : Advance request log slot ⟨r, (call, answer), r'⟩ := by
  have hpost : (r.call call).1 = r' := congrArg Prod.fst hstep
  cases call with
  | reset => exact nomatch hordinary
  | abandonCurrent reason guard => exact nomatch hordinary
  | begin next guard config =>
    obtain ⟨rfl, rfl⟩ | ⟨hrefused, rfl, slot', rfl⟩ := begin_call hstep
    · exact .kept rfl rfl slot htracks (fun _ => rfl) (.same _ rfl)
    · exact .begun next rfl (fun hlive => hrefused (.inl hlive)) _ (tracks_begin hrefused guard config slot')
        (begins_of_not_refused hrefused guard config slot')
  | captureStep input command guard =>
    obtain ⟨slot', htracks', hsame, houtcome⟩ := tracks_captureStep htracks input command guard
    have hstate : (r.captureStep input command guard).1 = r' := hpost
    rw [hstate] at htracks' houtcome
    exact .kept rfl rfl slot' htracks' hsame (.stepped input command guard slot' _ houtcome)
  | markNext marker_id =>
    have hstate : (r.markNext marker_id).1 = r' := hpost
    have hstanding : (r.markNext marker_id).1.standing = r.standing := by
      unfold TraceRecorder.markNext
      split <;> rfl
    rw [hstate] at hstanding
    refine .kept rfl rfl slot (hstate ▸ tracks_markNext htracks marker_id) (fun _ => rfl) ?_
    rw [hstanding]
    exact .same _ rfl
  | abort reason guard =>
    have hstate : r.abort reason guard = r' := hpost
    refine .kept rfl rfl slot (hstate ▸ tracks_abort htracks reason guard) (fun _ => rfl) ?_
    subst hstate
    exact shift_abort slot r reason guard
  | peek =>
    obtain ⟨slot', htracks', hsame, hstanding, hconcludes⟩ := tracks_peek htracks
    have hstate : r.peek.1 = r' := hpost
    rw [hstate] at htracks' hstanding
    refine .kept rfl rfl slot' htracks' hsame ?_
    rw [hstanding]
    cases slot with
    | some entry =>
      obtain rfl := hsame rfl
      exact .same _ rfl
    | none =>
      cases slot' with
      | none => exact .same _ rfl
      | some entry => exact .concluded entry rfl (hconcludes entry rfl rfl)
  | copySlice view offset out_cap length =>
    have hstate : r = r' := hpost
    subst hstate
    exact .kept rfl rfl slot htracks (fun _ => rfl) (.same _ rfl)
  | acknowledge view =>
    have hstate : r.acknowledge view = r' := hpost
    by_cases haccepted : r.slot_ready = true ∧ view.record_seq = r.slot_view.record_seq
    · cases slot with
      | none =>
        rw [htracks.ready] at haccepted
        exact nomatch haccepted.1
      | some entry =>
        obtain ⟨slot', htracks', hstanding, hnext⟩ := tracks_acknowledge htracks haccepted.2
        rw [hstate] at htracks' hstanding
        refine .sent entry rfl rfl ?_ slot' htracks' hstanding hnext
        show (if _ then _ else _) = _
        rw [if_pos haccepted, currentRecord_eq (htracks.holds entry rfl)]
    · have hsame := acknowledge_of_refused haccepted
      rw [hstate] at hsame
      subst hsame
      exact .kept rfl (if_neg haccepted) slot htracks (fun _ => rfl) (.same _ rfl)
  | noteFragmentsSent count =>
    have hstate : r.noteFragmentsSent count = r' := hpost
    subst hstate
    refine .kept rfl rfl slot ?_ (fun _ => rfl) (.noted count)
    exact { htracks with
      holds := fun entry hentry => ⟨(htracks.holds entry hentry).view, (htracks.holds entry hentry).bytes⟩ }
  | takeCompletion =>
    have hstate : r.takeCompletion.1 = r' := hpost
    have hstanding : r.takeCompletion.1.standing = r.standing := by
      unfold TraceRecorder.takeCompletion
      split <;> rfl
    rw [hstate] at hstanding
    refine .kept rfl rfl slot ?_ (fun _ => rfl) ?_
    · subst hstate
      unfold TraceRecorder.takeCompletion
      split
      · exact htracks
      · exact { htracks with
          holds := fun entry hentry => ⟨(htracks.holds entry hentry).view, (htracks.holds entry hentry).bytes⟩ }
    · rw [hstanding]
      exact .same _ rfl

structure Idle (r : TraceRecorder) : Prop where
  live : ¬ Live r
  ready : r.slot_ready = false

/-- Without a capture a call can only start one. -/
theorem idle_of_call (hidle : Idle r) (hordinary : Ordinary ⟨r, (call, answer), r'⟩)
    (hstep : r.call call = (r', answer)) :
    (∃ next slot, started ⟨r, (call, answer), r'⟩ = some next ∧ Tracks next [] slot r' ∧
        Begins next slot r'.standing) ∨
      (started ⟨r, (call, answer), r'⟩ = none ∧ acknowledged ⟨r, (call, answer), r'⟩ = none ∧
        Idle r') := by
  have hpost : (r.call call).1 = r' := congrArg Prod.fst hstep
  have hactive : r.summary.active = false := Bool.eq_false_of_not_eq_true fun h => hidle.live (.inl h)
  have hterminal : r.summary.terminal_pending = false :=
    Bool.eq_false_of_not_eq_true fun h => hidle.live (.inr h)
  cases call with
  | reset => exact nomatch hordinary
  | abandonCurrent reason guard => exact nomatch hordinary
  | begin next guard config =>
    obtain ⟨rfl, rfl⟩ | ⟨hrefused, rfl, slot', rfl⟩ := begin_call hstep
    · exact .inr ⟨rfl, rfl, hidle⟩
    · exact .inl ⟨next, _, rfl, tracks_begin hrefused guard config slot',
        begins_of_not_refused hrefused guard config slot'⟩
  | captureStep input command guard =>
    have hstate : (r.captureStep input command guard).1 = r' := hpost
    unfold TraceRecorder.captureStep at hstate
    rw [hactive, Bool.not_false, if_pos rfl] at hstate
    exact .inr ⟨rfl, rfl, hstate ▸ hidle⟩
  | markNext marker_id =>
    have hstate : (r.markNext marker_id).1 = r' := hpost
    unfold TraceRecorder.markNext at hstate
    rw [hactive, Bool.not_false, Bool.true_or, if_pos rfl] at hstate
    exact .inr ⟨rfl, rfl, hstate ▸ hidle⟩
  | abort reason guard =>
    have hstate : r.abort reason guard = r' := hpost
    unfold TraceRecorder.abort at hstate
    rw [hactive, hterminal, if_pos (by rfl)] at hstate
    exact .inr ⟨rfl, rfl, hstate ▸ hidle⟩
  | peek =>
    have hstate : r.peek.1 = r' := hpost
    unfold TraceRecorder.peek at hstate
    rw [hterminal, Bool.and_false, if_neg Bool.false_ne_true] at hstate
    exact .inr ⟨rfl, rfl, hstate ▸ hidle⟩
  | copySlice view offset out_cap length =>
    have hstate : r = r' := hpost
    exact .inr ⟨rfl, rfl, hstate ▸ hidle⟩
  | acknowledge view =>
    have hstate : r.acknowledge view = r' := hpost
    unfold TraceRecorder.acknowledge at hstate
    rw [hidle.ready, Bool.not_false, Bool.true_or, if_pos rfl] at hstate
    refine .inr ⟨rfl, if_neg fun haccepted => ?_, hstate ▸ hidle⟩
    exact nomatch hidle.ready.symm.trans haccepted.1
  | noteFragmentsSent count =>
    have hstate : r.noteFragmentsSent count = r' := hpost
    subst hstate
    exact .inr ⟨rfl, rfl, hidle.live, hidle.ready⟩
  | takeCompletion =>
    have hstate : r.takeCompletion.1 = r' := hpost
    subst hstate
    unfold TraceRecorder.takeCompletion
    split
    · exact .inr ⟨rfl, rfl, hidle⟩
    · exact .inr ⟨rfl, rfl, hidle.live, hidle.ready⟩

/-- The capture is over, and its records are those of a log with an `End`. -/
def Concluded (c : CaptureRecords) : Prop :=
  ∃ log, c.records = recordsOf c.request log ∧ TraceLog c.request log ∧ Ended log ∧
    c.request.step_count ≤ kMaxCaptureSteps

/-- The latest capture is the one of the log, and all before it are concluded. -/
def Recording (h : List RecorderEvent) (request : CaptureRequest) (log : List Entry)
    (slot : Option Entry) (r : TraceRecorder) : Prop :=
  ∃ done, captures h = { request, records := recordsOf request log } :: done ∧
    (∀ c ∈ done, Concluded c) ∧ Tracks request log slot r

theorem concluded_of_tracks (htracks : Tracks request log slot r) (hidle : ¬ Live r) :
    Concluded { request, records := recordsOf request log } := by
  have hactive : r.summary.active = false := Bool.eq_false_of_not_eq_true fun h => hidle (.inl h)
  have hterminal : r.summary.terminal_pending = false :=
    Bool.eq_false_of_not_eq_true fun h => hidle (.inr h)
  obtain ⟨hended, rfl⟩ := htracks.finished hactive hterminal
  have htrace := htracks.trace
  rw [Option.toList_none, List.append_nil] at htrace
  exact ⟨log, rfl, htrace, hended, htracks.bound⟩

theorem captures_started (hstarted : started e = some request) :
    captures (e :: h) = { request, records := [] } :: captures h := by
  show (match started e with
    | some request => _
    | none => _) = _
  rw [hstarted]

theorem captures_sent {record : Record} (hstarted : started e = none)
    (hsent : acknowledged e = some record) : captures (e :: h) = addRecord record (captures h) := by
  show (match started e with
    | some request => _
    | none => _) = _
  rw [hstarted, hsent]

theorem captures_kept (hstarted : started e = none) (hsent : acknowledged e = none) :
    captures (e :: h) = captures h := by
  show (match started e with
    | some request => _
    | none => _) = _
  rw [hstarted, hsent]

def Recorded (h : List RecorderEvent) (r : TraceRecorder) : Prop :=
  captures h = [] ∧ Idle r ∨ ∃ request log slot, Recording h request log slot r

theorem recorded_call (hrecorded : Recorded h r) (hordinary : Ordinary ⟨r, (call, answer), r'⟩)
    (hstep : r.call call = (r', answer)) : Recorded (⟨r, (call, answer), r'⟩ :: h) r' := by
  obtain ⟨hnone, hidle⟩ | ⟨request, log, slot, done, hcaptures, hdone, htracks⟩ := hrecorded
  · obtain ⟨next, slot, hstarted, htracks, -⟩ | ⟨hstarted, hsent, hidle⟩ :=
      idle_of_call hidle hordinary hstep
    · refine .inr ⟨next, [], slot, [], ?_, nofun, htracks⟩
      rw [captures_started hstarted, hnone]
      rfl
    · refine .inl ⟨?_, hidle⟩
      rw [captures_kept hstarted hsent, hnone]
  · cases advance_of_call htracks hordinary hstep with
    | begun next hstarted hidle slot' hnext hbegins =>
      refine .inr ⟨next, [], slot', captures h, captures_started hstarted, ?_, hnext⟩
      rw [hcaptures]
      exact List.forall_mem_cons.mpr ⟨concluded_of_tracks htracks hidle, hdone⟩
    | sent entry hslot hstarted hsent slot' hnext hstanding hconcludes =>
      refine .inr ⟨request, log ++ [entry], slot', done, ?_, hdone, hnext⟩
      rw [captures_sent hstarted hsent, hcaptures, recordsOf_concat]
      rfl
    | kept hstarted hsent slot' hnext hsame hshift =>
      refine .inr ⟨request, log, slot', done, ?_, hdone, hnext⟩
      rw [captures_kept hstarted hsent, hcaptures]

theorem idle_initial : Idle {} := by
  refine ⟨?_, rfl⟩
  rintro (hactive | hterminal)
  · cases hactive
  · cases hterminal

theorem recorded_of_run (run : RecorderRun h r) (hordinary : ∀ e ∈ h, Ordinary e) : Recorded h r := by
  induction run with
  | nil =>
    exact .inl ⟨rfl, idle_initial⟩
  | step run hstep ih =>
    have hbefore := ih fun e he => hordinary e (List.mem_cons_of_mem _ he)
    exact recorded_call hbefore (hordinary _ (List.mem_cons_self ..)) hstep

theorem Concluded.hasEnd {c : CaptureRecords} (hconcluded : Concluded c) : HasEnd c := by
  obtain ⟨log, hrecords, -, ⟨last, hlast, hend⟩, -⟩ := hconcluded
  obtain ⟨earlier, rfl⟩ := List.getLast?_eq_some_iff.mp hlast
  refine ⟨last.record c.request earlier.length, ?_, hend⟩
  rw [hrecords, recordsOf_concat, List.getLast?_concat]

theorem Concluded.inOrder {c : CaptureRecords} (hconcluded : Concluded c) :
    Grown (InOrder c.request) c.records := by
  obtain ⟨log, hrecords, htrace, -, hbound⟩ := hconcluded
  rw [hrecords]
  exact inOrder_recordsOf hbound htrace

/-- The event neither drops nor acknowledges the record in the slot. -/
structure Leaves (e : RecorderEvent) : Prop where
  ordinary : Ordinary e
  unsent : acknowledged e = none

theorem tracks_of_leaves (htracks : Tracks request log (some entry) r)
    (run : Run (WithOutput TraceRecorder.call) r later r') (hleaves : ∀ e ∈ later, Leaves e) :
    Tracks request log (some entry) r' := by
  induction run with
  | nil => exact htracks
  | step run hstep ih =>
    have hbefore := ih fun e he => hleaves e (List.mem_cons_of_mem _ he)
    obtain ⟨hordinary, hunsent⟩ := hleaves _ (List.mem_cons_self ..)
    cases advance_of_call hbefore hordinary hstep with
    | begun next hstarted hidle slot' hnext hbegins =>
      exact absurd (live_of_ready hbefore.toPublished hbefore.toProgress hbefore.ready) hidle
    | sent entry hslot hstarted hsent slot' hnext hstanding hconcludes =>
      rw [hunsent] at hsent
      cases hsent
    | kept hstarted hsent slot' hnext hsame hshift => exact hsame rfl ▸ hnext

theorem copySlice_of_holds (hready : r.slot_ready = true) (hholds : Holds request log.length entry r)
    (view : RecordView) (offset out_cap length : UInt16) :
    r.copySlice view offset out_cap length =
      if view.record_seq = (entry.record request log.length).view.record_seq ∧
          view.logical_length = (entry.record request log.length).view.logical_length ∧
          offset ≤ view.logical_length ∧ length ≤ view.logical_length - offset ∧ length ≤ out_cap then
        some (((entry.bytes request).drop offset.toNat).take length.toNat)
      else none := by
  have hsize := length_entry_toNat request entry
  have hrefused : (!true || view.record_seq != (entry.record request log.length).view.record_seq ||
      view.logical_length != (entry.record request log.length).view.logical_length ||
      decide (offset > view.logical_length) || decide (length > view.logical_length - offset) ||
      decide (out_cap < length)) = true ↔
      ¬ (view.record_seq = (entry.record request log.length).view.record_seq ∧
        view.logical_length = (entry.record request log.length).view.logical_length ∧
        offset ≤ view.logical_length ∧ length ≤ view.logical_length - offset ∧ length ≤ out_cap) := by
    simp only [Bool.not_true, Bool.false_or, Bool.or_eq_true, bne_iff_ne, decide_eq_true_eq,
      Classical.not_and_iff_not_or_not, UInt16.not_le, gt_iff_lt, or_assoc, ne_eq]
  unfold TraceRecorder.copySlice
  rw [hready, hholds.view, if_congr hrefused rfl rfl]
  by_cases hcond : view.record_seq = (entry.record request log.length).view.record_seq ∧
      view.logical_length = (entry.record request log.length).view.logical_length ∧
      offset ≤ view.logical_length ∧ length ≤ view.logical_length - offset ∧ length ≤ out_cap
  · rw [if_neg (not_not.mpr hcond), if_pos hcond]
    obtain ⟨hseq, hlength, hoffset, hroom, hcap⟩ := hcond
    have htotal : view.logical_length.toNat = (entry.bytes request).length := by
      rw [hlength]
      exact hsize
    have hslice : length.toNat ≤ (entry.bytes request).length - offset.toNat := by
      rw [← htotal, ← UInt16.toNat_sub_of_le _ _ hoffset]
      exact UInt16.le_iff_toNat_le.mp hroom
    rw [← hholds.bytes, List.drop_take, List.take_take, Nat.min_eq_left hslice]
  · rw [if_pos hcond, if_neg hcond]

/-- **The record protocol.** The records that are acknowledged for a capture come in order, and the last
one is `End` once the capture is over. A record in the slot stays there as it is until it is
acknowledged. -/
theorem records_in_order (run : RecorderRun h r) (hordinary : ∀ e ∈ h, Ordinary e) :
    (∀ c ∈ captures h, Grown (InOrder c.request) c.records) ∧
    (∀ c ∈ (captures h).tail, HasEnd c) ∧ (¬ Live r → ∀ c ∈ captures h, HasEnd c) ∧
    (r.slot_ready = true → ∀ later r', Run (WithOutput TraceRecorder.call) r later r' →
      (∀ e ∈ later, Leaves e) →
        r'.slot_ready = true ∧ r'.currentRecord = r.currentRecord ∧
        ∀ view offset out_cap length,
          r'.copySlice view offset out_cap length = r.copySlice view offset out_cap length) := by
  obtain ⟨hnone, hidle⟩ | ⟨request, log, slot, done, hcaptures, hdone, htracks⟩ :=
    recorded_of_run run hordinary
  · rw [hnone]
    refine ⟨nofun, nofun, fun _ => nofun, fun hready => ?_⟩
    exact nomatch hidle.ready.symm.trans hready
  · rw [hcaptures]
    refine ⟨List.forall_mem_cons.mpr ⟨?_, fun c hc => (hdone c hc).inOrder⟩, fun c hc => (hdone c hc).hasEnd,
      fun hidle => List.forall_mem_cons.mpr ⟨(concluded_of_tracks htracks hidle).hasEnd,
        fun c hc => (hdone c hc).hasEnd⟩, fun hready later r' hlater hleaves => ?_⟩
    · exact inOrder_recordsOf htracks.bound htracks.trace.of_append
    · cases slot with
      | none =>
        rw [htracks.ready] at hready
        exact nomatch hready
      | some entry =>
        have hafter := tracks_of_leaves htracks hlater hleaves
        have hholds := htracks.holds entry rfl
        have hholds' := hafter.holds entry rfl
        refine ⟨hafter.ready, ?_, fun view offset out_cap length => ?_⟩
        · rw [currentRecord_eq hholds, currentRecord_eq hholds']
        · rw [copySlice_of_holds hready hholds, copySlice_of_holds hafter.ready hholds']

def markedCapture : List RecorderCall :=
  [.begin { session_id := 4, capture_id := 9, step_count := 1 } {} (some (checkedInput true 0).config),
    .markNext 77, .acknowledge { record_seq := 1 }, .captureStep (checkedInput true 0) {} {},
    .acknowledge { record_seq := 2 }, .captureStep (checkedInput true 0) {} {},
    .acknowledge { record_seq := 3 }, .peek, .acknowledge { record_seq := 4 },
    .abort .hostAborted {}, .acknowledge { record_seq := 5 }, .takeCompletion]

def recordRecorder (calls : List RecorderCall) : TraceRecorder × List RecorderEvent :=
  record TraceRecorder.call {} [] calls

theorem run_recordRecorder (calls : List RecorderCall) :
    RecorderRun (recordRecorder calls).2 (recordRecorder calls).1 :=
  run_record TraceRecorder.call calls .nil

theorem ordinary_recordRecorder {calls : List RecorderCall} (hcalls : calls.all (·.ordinary) = true) :
    ∀ e ∈ (recordRecorder calls).2, Ordinary e :=
  fun _ he => List.all_eq_true.mp hcalls _ (mem_record he)

theorem records_in_order_marked : (recordRecorder markedCapture).2.length = 12 ∧
    ∀ c ∈ captures (recordRecorder markedCapture).2, Grown (InOrder c.request) c.records := by
  refine ⟨rfl, ?_⟩
  exact (records_in_order (run_recordRecorder markedCapture) (ordinary_recordRecorder rfl)).1

end HexapodVerified.Hil
