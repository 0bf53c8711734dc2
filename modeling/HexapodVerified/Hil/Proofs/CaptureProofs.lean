import HexapodVerified.Hil.Proofs.TraceOrderProofs

/-!
# The log of a capture

At every moment of a capture there is a log of what has been acknowledged and an entry for what is in the
slot, and the two together follow the rule of `TraceOrder`. The calls publish only into an empty slot, or
in place of the record that they acknowledge.
-/

namespace HexapodVerified.Hil

open HexapodVerified.Config Codec Growth

variable {request : CaptureRequest} {log : List Entry} {entry : Entry} {slot : Option Entry}
  {r : TraceRecorder} {count : Nat}

structure Holds (request : CaptureRequest) (count : Nat) (entry : Entry) (r : TraceRecorder) : Prop where
  view : r.slot_view = (entry.record request count).view
  bytes : r.slot.take (entry.bytes request).length = entry.bytes request

def fill (request : CaptureRequest) (count : Nat) (entry : Entry) (r : TraceRecorder) : TraceRecorder :=
  { r with
    slot := overwrite r.slot 0 (entry.bytes request)
    slot_view := (entry.record request count).view
    next_record_sequence := r.next_record_sequence + 1
    slot_ready := true }

theorem take_overwrite_zero (slot bytes : List UInt8) :
    (overwrite slot 0 bytes).take bytes.length = bytes := by
  unfold overwrite
  rw [List.take_zero, List.nil_append, List.take_left']
  rfl

theorem holds_fill (request : CaptureRequest) (count : Nat) (entry : Entry) (r : TraceRecorder) :
    Holds request count entry (fill request count entry r) := ⟨rfl, take_overwrite_zero _ _⟩

/-- The recorder after bytes that fit the slot are published. -/
def filled (type : RecordType) (bytes : List UInt8) (r : TraceRecorder) : TraceRecorder :=
  { r with
    slot := overwrite r.slot 0 bytes
    slot_view :=
      { type
        session_id := r.summary.session_id
        capture_id := r.summary.capture_id
        record_seq := r.next_record_sequence
        logical_length := UInt16.ofNat bytes.length
        logical_crc16 := Protocol.crc16 bytes }
    next_record_sequence := r.next_record_sequence + 1
    slot_ready := true }

theorem write_of_fits (r : TraceRecorder) (type : RecordType) {bytes : List UInt8}
    (hpos : 0 < bytes.length) (hle : bytes.length ≤ kMaxLogicalRecordBytes) :
    r.write type bytes = (filled type bytes r, true) := by
  have hle' : bytes.length ≤ 960 := hle
  have hsize : (UInt16.ofNat bytes.length).toNat = bytes.length := by
    rw [UInt16.toNat_ofNat', Nat.mod_eq_of_lt (by omega)]
  have hnonzero : UInt16.ofNat bytes.length ≠ 0 := by
    intro hzero
    rw [hzero, UInt16.toNat_zero] at hsize
    omega
  unfold TraceRecorder.write
  rw [List.take_of_length_le hle, if_neg (Nat.not_lt.mpr hle)]
  unfold TraceRecorder.publish
  rw [hsize, if_neg (by simp [hnonzero, hle]), take_overwrite_zero]
  rfl

/-- The recorder writes the records of this capture, and `count` of them have been written. -/
structure Envelope (request : CaptureRequest) (count : Nat) (r : TraceRecorder) : Prop where
  session : r.summary.session_id = request.session_id
  capture : r.summary.capture_id = request.capture_id
  requested : r.summary.requested_steps = request.step_count
  next : r.next_record_sequence = UInt32.ofNat (count + 1)

theorem Envelope.write_eq (h : Envelope request count r) (entry : Entry) :
    r.write entry.type (entry.bytes request) = (fill request count entry r, true) := by
  obtain ⟨hpos, hle⟩ := length_entry request entry
  rw [write_of_fits r entry.type hpos hle]
  unfold filled fill Entry.record
  rw [h.session, h.capture, h.next]

structure Standing where
  active : Bool
  terminal : Bool
  reason : CaptureEndReason
  recorded_steps : UInt8
  fragments : UInt32
  config_set : Bool
  config_pending : Bool
  config_revision : UInt32
  config_crc : UInt16

def Standing.finish (s : Standing) (reason : CaptureEndReason) : Standing :=
  { s with active := false, terminal := true, reason }

def TraceRecorder.standing (r : TraceRecorder) : Standing where
  active := r.summary.active
  terminal := r.summary.terminal_pending
  reason := r.summary.end_reason
  recorded_steps := r.summary.recorded_steps
  fragments := r.emitted_fragment_count
  config_set := r.config_source_set
  config_pending := r.config_pending
  config_revision := r.config_revision
  config_crc := r.config_payload_crc16

/-- The records of the capture: the log is acknowledged, and the slot holds the next entry. -/
structure Published (request : CaptureRequest) (log : List Entry) (slot : Option Entry)
    (r : TraceRecorder) : Prop where
  trace : TraceLog request (log ++ slot.toList)
  started : log ++ slot.toList ≠ []
  bound : request.step_count ≤ kMaxCaptureSteps
  session : r.summary.session_id = request.session_id
  capture : r.summary.capture_id = request.capture_id
  requested : r.summary.requested_steps = request.step_count
  ready : r.slot_ready = slot.isSome
  holds : ∀ entry, slot = some entry → Holds request log.length entry r
  next_record : r.next_record_sequence = UInt32.ofNat ((log ++ slot.toList).length + 1)
  emitted : r.emitted_record_count = UInt32.ofNat log.length

structure Progress (log : List Entry) (slot : Option Entry) (r : TraceRecorder) : Prop where
  recorded : r.summary.recorded_steps.toNat = stepCount (log ++ slot.toList)
  next_step : r.next_step_sequence.toNat = stepCount (log ++ slot.toList) + 1
  active : r.summary.active = true → r.summary.terminal_pending = false ∧
    ¬ Ended (log ++ slot.toList)
  config_pending : r.summary.active = true → r.config_pending = true →
    ∃ revision crc guard, log ++ slot.toList = [.begin revision crc guard]
  config_known : r.summary.active = true → r.config_pending = false →
    ∃ last, (log ++ slot.toList).getLast? = some last ∧ last.type ≠ .begin
  marker : r.deferred_marker_pending = true →
    ∃ input command, slot = some (.step r.deferred_marker_step_sequence input command)
  output : r.deferred_output_pending = true →
    ∃ entry, slot = some entry ∧ entry.stepBefore = some r.deferred_output_step_sequence
  terminal : r.summary.terminal_pending = true → ¬ Ended log
  ending : ∀ entry, slot = some entry → entry.type = .end → r.summary.terminal_pending = true
  finished : r.summary.active = false → r.summary.terminal_pending = false → Ended log ∧ slot = none

/-- The recorder is in the capture of this log; while it is active, steps are missing. -/
structure Tracks (request : CaptureRequest) (log : List Entry) (slot : Option Entry)
    (r : TraceRecorder) : Prop extends Published request log slot r, Progress log slot r where
  room : r.summary.active = true → stepCount (log ++ slot.toList) < request.step_count.toNat

def Live (r : TraceRecorder) : Prop := r.summary.active = true ∨ r.summary.terminal_pending = true

theorem abort_cases (r : TraceRecorder) (reason : CaptureEndReason) (guard : OutputGuardStatus) :
    (¬ Live r ∧ r.abort reason guard = r) ∨
      (Live r ∧ r.abort reason guard = r.finishCapture reason guard) := by
  have hlive : (!r.summary.active && !r.summary.terminal_pending) = true ↔ ¬ Live r := by
    unfold Live
    rw [Bool.and_eq_true, Bool.not_eq_true', Bool.not_eq_true', not_or, Bool.not_eq_true,
      Bool.not_eq_true]
  unfold TraceRecorder.abort
  by_cases hidle : (!r.summary.active && !r.summary.terminal_pending) = true
  · rw [if_pos hidle]
    exact .inl ⟨hlive.mp hidle, rfl⟩
  · rw [if_neg hidle]
    exact .inr ⟨not_not.mp (hlive.not.mp hidle), rfl⟩

/-- The slot is taken only while a capture is live. -/
theorem live_of_ready (hpublished : Published request log slot r)
    (hprogress : Progress log slot r) (hready : r.slot_ready = true) : Live r := by
  cases hactive : r.summary.active with
  | true => exact .inl hactive
  | false =>
    cases hterminal : r.summary.terminal_pending with
    | true => exact .inr hterminal
    | false =>
      obtain ⟨-, hnone⟩ := hprogress.finished hactive hterminal
      rw [hpublished.ready, hnone] at hready
      exact nomatch hready

theorem not_ended_of_live (hpublished : Published request log slot r) (hprogress : Progress log slot r)
    (hlive : Live r) : ¬ Ended log := by
  rcases hlive with hactive | hterminal
  · cases slot with
    | none =>
      have hopen := (hprogress.active hactive).2
      rwa [Option.toList_none, List.append_nil] at hopen
    | some entry => exact not_ended_of_follows hpublished.trace.admitted
  · exact hprogress.terminal hterminal

/-! ## The control task -/

/-- The capture is over, for whatever reason. -/
theorem tracks_finishCapture (hpublished : Published request log slot r)
    (hprogress : Progress log slot r) (hlive : Live r) (reason : CaptureEndReason)
    (guard : OutputGuardStatus) : Tracks request log slot (r.finishCapture reason guard) where
  trace := hpublished.trace
  started := hpublished.started
  bound := hpublished.bound
  session := hpublished.session
  capture := hpublished.capture
  requested := hpublished.requested
  ready := hpublished.ready
  holds := fun entry hentry =>
    ⟨(hpublished.holds entry hentry).view, (hpublished.holds entry hentry).bytes⟩
  next_record := hpublished.next_record
  emitted := hpublished.emitted
  recorded := hprogress.recorded
  next_step := hprogress.next_step
  active := nofun
  config_pending := nofun
  config_known := nofun
  marker := hprogress.marker
  output := hprogress.output
  terminal := fun _ => not_ended_of_live hpublished hprogress hlive
  ending := fun _ _ _ => rfl
  finished := nofun
  room := nofun

theorem Published.fill (h : Published request log none r) (hfollows : Follows request log entry) :
    Published request log (some entry) (fill request log.length entry r) where
  trace := by
    rw [Option.toList_some]
    have htrace := h.trace
    rw [Option.toList_none, List.append_nil] at htrace
    exact htrace.concat hfollows
  started := by simp
  bound := h.bound
  session := h.session
  capture := h.capture
  requested := h.requested
  ready := rfl
  holds := by
    rintro entry ⟨⟩
    exact holds_fill ..
  next_record := by
    show r.next_record_sequence + 1 = _
    rw [h.next_record]
    simp
  emitted := h.emitted

theorem Published.pop (h : Published request log (some entry) r) :
    Published request (log ++ [entry]) none
      { r with
        emitted_record_count := r.emitted_record_count + 1
        slot_ready := false } where
  trace := by simpa using h.trace
  started := by simp
  bound := h.bound
  session := h.session
  capture := h.capture
  requested := h.requested
  ready := rfl
  holds := by
    intro entry hentry
    cases hentry
  next_record := by
    rw [h.next_record]
    simp
  emitted := by
    show r.emitted_record_count + 1 = _
    rw [h.emitted]
    simp

theorem Published.envelope (h : Published request log none r) : Envelope request log.length r :=
  ⟨h.session, h.capture, h.requested, by simpa using h.next_record⟩

/-- The configuration that a capture without one takes from a step. -/
def adopted (r : TraceRecorder) (config : Controller.ControllerConfigSnapshot) : TraceRecorder :=
  if r.config_source_set then r
  else
    { r with
      config_source_set := true
      config_revision := config.revision
      slot := if config.valid then overwrite r.slot 0 (payloadOf config.robot) else r.slot
      config_payload_crc16 :=
        if config.valid then Protocol.crc16 (payloadOf config.robot) else r.config_payload_crc16 }

theorem payloadOf_ne_zero (robot : RobotConfig) : (payloadOf robot).length ≠ 0 := by
  rw [length_payloadOf]
  decide

theorem adoptConfig_eq (r : TraceRecorder) (config : Controller.ControllerConfigSnapshot) :
    r.adoptConfig config = some (adopted r config) := by
  have hcapacity : kConfigPayloadSize ≤ kMaxLogicalRecordBytes := by decide
  unfold TraceRecorder.adoptConfig adopted
  rw [serialize_eq hcapacity]
  cases hset : r.config_source_set with
  | true => rfl
  | false =>
    cases hvalid : config.valid with
    | false => rfl
    | true =>
      rw [if_neg Bool.false_ne_true, if_pos rfl, if_neg (payloadOf_ne_zero _)]
      rfl

def configSlot (config : Controller.ControllerConfigSnapshot) (slot : List UInt8) : List UInt8 :=
  overwrite slot 10 (configPayload config)

theorem publishConfig_eq (r : TraceRecorder) (config : Controller.ControllerConfigSnapshot) :
    r.publishConfig config =
      if config.valid = true ∧ Protocol.crc16 (configPayload config) ≠ r.config_payload_crc16 then
        ({ r with slot := configSlot config r.slot }, false)
      else { r with slot := configSlot config r.slot }.write .config (configRecord config) := by
  have hcapacity : kConfigPayloadSize ≤ kMaxLogicalRecordBytes - 10 := by decide
  unfold TraceRecorder.publishConfig configSlot configPayload
  rw [serialize_eq hcapacity]
  cases hvalid : config.valid with
  | false => simp
  | true =>
    have hne : payloadOf config.robot ≠ [] := fun h => payloadOf_ne_zero config.robot (by rw [h]; rfl)
    simp only [Bool.true_and, if_true, true_and, Bool.or_eq_true, beq_iff_eq, bne_iff_ne,
      List.length_eq_zero_iff, hne, false_or]

theorem Published.of_free (h : Published request log none r) {r' : TraceRecorder}
    (hsession : r'.summary.session_id = r.summary.session_id)
    (hcapture : r'.summary.capture_id = r.summary.capture_id)
    (hrequested : r'.summary.requested_steps = r.summary.requested_steps)
    (hready : r'.slot_ready = r.slot_ready)
    (hnext : r'.next_record_sequence = r.next_record_sequence)
    (hemitted : r'.emitted_record_count = r.emitted_record_count) :
    Published request log none r' where
  trace := h.trace
  started := h.started
  bound := h.bound
  session := hsession.trans h.session
  capture := hcapture.trans h.capture
  requested := hrequested.trans h.requested
  ready := hready.trans h.ready
  holds := by
    intro entry hentry
    cases hentry
  next_record := hnext.trans h.next_record
  emitted := hemitted.trans h.emitted

/-- The configuration is published unless its payload is not the one of `Begin`. -/
theorem Envelope.publishConfig_eq (h : Envelope request count r)
    (config : Controller.ControllerConfigSnapshot) :
    r.publishConfig config =
      if config.valid = true ∧ Protocol.crc16 (configPayload config) ≠ r.config_payload_crc16 then
        ({ r with slot := configSlot config r.slot }, false)
      else
        (fill request count (.config config) { r with slot := configSlot config r.slot }, true) := by
  have hslot : Envelope request count { r with slot := configSlot config r.slot } :=
    ⟨h.session, h.capture, h.requested, h.next⟩
  have hwrite : { r with slot := configSlot config r.slot }.write .config (configRecord config) = _ :=
    hslot.write_eq (.config config)
  rw [Hil.publishConfig_eq, hwrite]

/-- What a step sets aside for later, before it is recorded. -/
def deferred (r : TraceRecorder) (input : ControllerStepInput) (command : Controller.RobotCommand)
    (guard : OutputGuardStatus) : TraceRecorder :=
  ({ r with next_step_sequence := r.next_step_sequence + 1 }.deferMarker r.next_step_sequence
    input.time command).deferOutput r.next_step_sequence guard

/-- What is set aside belongs to the step; nothing else changes. -/
structure Defers (r r' : TraceRecorder) : Prop where
  summary : r'.summary = r.summary
  ready : r'.slot_ready = r.slot_ready
  next_record : r'.next_record_sequence = r.next_record_sequence
  emitted : r'.emitted_record_count = r.emitted_record_count
  completion : r'.completion_pending = r.completion_pending
  next_step : r'.next_step_sequence = r.next_step_sequence + 1
  config_pending : r'.config_pending = r.config_pending
  marker : r'.deferred_marker_pending = true →
    r.deferred_marker_pending = true ∨ r'.deferred_marker_step_sequence = r.next_step_sequence
  output : r'.deferred_output_pending = true →
    r.deferred_output_pending = true ∨ r'.deferred_output_step_sequence = r.next_step_sequence

theorem defers_deferred (r : TraceRecorder) (input : ControllerStepInput)
    (command : Controller.RobotCommand) (guard : OutputGuardStatus) :
    Defers r (deferred r input command guard) := by
  unfold deferred TraceRecorder.deferOutput
  split
  · unfold TraceRecorder.deferMarker
    split
    · exact ⟨rfl, rfl, rfl, rfl, rfl, rfl, rfl, fun _ => .inr rfl, fun _ => .inr rfl⟩
    · exact ⟨rfl, rfl, rfl, rfl, rfl, rfl, rfl, .inl, fun _ => .inr rfl⟩
  · unfold TraceRecorder.deferMarker
    split
    · exact ⟨rfl, rfl, rfl, rfl, rfl, rfl, rfl, fun _ => .inr rfl, .inl⟩
    · exact ⟨rfl, rfl, rfl, rfl, rfl, rfl, rfl, .inl, .inl⟩

theorem standing_deferred (r : TraceRecorder) (input : ControllerStepInput)
    (command : Controller.RobotCommand) (guard : OutputGuardStatus) :
    (deferred r input command guard).standing = r.standing := by
  unfold deferred TraceRecorder.deferOutput
  split
  · unfold TraceRecorder.deferMarker
    split <;> rfl
  · unfold TraceRecorder.deferMarker
    split <;> rfl

def counted (r : TraceRecorder) (guard : OutputGuardStatus) : TraceRecorder :=
  { r with
    last_guard := guard
    summary :=
      { r.summary with
        recorded_steps := r.summary.recorded_steps + 1
        queue_high_water := 1 } }

/-- The recorder after a step is recorded, before it is known whether it was the last one. -/
def recorded (request : CaptureRequest) (count : Nat) (r : TraceRecorder)
    (input : ControllerStepInput) (command : Controller.RobotCommand) (guard : OutputGuardStatus) :
    TraceRecorder :=
  counted (fill request count (.step r.next_step_sequence input command)
    (deferred r input command guard)) guard

theorem Published.deferred (h : Published request log none r) (input : ControllerStepInput)
    (command : Controller.RobotCommand) (guard : OutputGuardStatus) :
    Published request log none (deferred r input command guard) := by
  obtain ⟨hsummary, hready, hnext, hemitted, -⟩ := defers_deferred r input command guard
  exact h.of_free (by rw [hsummary]) (by rw [hsummary]) (by rw [hsummary]) hready hnext hemitted

theorem Envelope.recordStep_eq (h : Envelope request count r) (input : ControllerStepInput)
    (command : Controller.RobotCommand) (guard : OutputGuardStatus) :
    r.recordStep input command guard =
      (if (recorded request count r input command guard).summary.recorded_steps ≥
          (recorded request count r input command guard).summary.requested_steps then
        (recorded request count r input command guard).finishCapture .complete guard
      else recorded request count r input command guard, true) := by
  have hdefers := defers_deferred r input command guard
  have hdeferred : Envelope request count (Hil.deferred r input command guard) := by
    refine ⟨?_, ?_, ?_, hdefers.next_record.trans h.next⟩
    · rw [hdefers.summary]
      exact h.session
    · rw [hdefers.summary]
      exact h.capture
    · rw [hdefers.summary]
      exact h.requested
  have hwrite : (Hil.deferred r input command guard).write .step
      (stepRecord r.next_step_sequence input command) =
      (fill request count (.step r.next_step_sequence input command)
        (Hil.deferred r input command guard), true) :=
    hdeferred.write_eq (.step r.next_step_sequence input command)
  have hpublish : (({ r with next_step_sequence := r.next_step_sequence + 1 }.deferMarker
      r.next_step_sequence input.time command).deferOutput r.next_step_sequence guard).publishStep input
        r.next_step_sequence command = _ := hwrite
  unfold TraceRecorder.recordStep
  dsimp only
  rw [hpublish]
  unfold recorded counted
  dsimp only
  split <;> rfl

theorem standing_recordStep (r : TraceRecorder) (h : Envelope request count r)
    (input : ControllerStepInput) (command : Controller.RobotCommand) (guard : OutputGuardStatus) :
    (r.recordStep input command guard).1.standing =
      if r.summary.recorded_steps + 1 ≥ r.summary.requested_steps then
        { r.standing with recorded_steps := r.summary.recorded_steps + 1 }.finish .complete
      else { r.standing with recorded_steps := r.summary.recorded_steps + 1 } := by
  have hsummary := (defers_deferred r input command guard).summary
  have hrecorded : (recorded request count r input command guard).standing =
      { r.standing with recorded_steps := r.summary.recorded_steps + 1 } := by
    rw [← standing_deferred r input command guard, ← hsummary]
    rfl
  have hlast : (recorded request count r input command guard).summary.recorded_steps ≥
      (recorded request count r input command guard).summary.requested_steps ↔
        r.summary.recorded_steps + 1 ≥ r.summary.requested_steps := by
    rw [← hsummary]
    exact Iff.rfl
  rw [h.recordStep_eq, if_congr hlast rfl rfl, ← hrecorded]
  split <;> rfl

theorem follows_step (h : Tracks request log none r) (hactive : r.summary.active = true)
    (hknown : r.config_pending = false) (input : ControllerStepInput)
    {command : Controller.RobotCommand} (hgoals : command.goals.joints.length ≤ kNumServos) :
    Follows request log (.step r.next_step_sequence input command) := by
  obtain ⟨last, hlast, hbegin⟩ := h.config_known hactive hknown
  have hopen := (h.active hactive).2
  have hseq := h.next_step
  have hroom := h.room hactive
  rw [Option.toList_none, List.append_nil] at hlast hopen hseq hroom
  exact ⟨⟨last, hlast, hbegin, fun hend => hopen ⟨last, hlast, hend⟩⟩, hseq, hroom, hgoals⟩

theorem tracks_recordStep (h : Tracks request log none r) (hactive : r.summary.active = true)
    (hknown : r.config_pending = false) (input : ControllerStepInput)
    {command : Controller.RobotCommand} (hgoals : command.goals.joints.length ≤ kNumServos)
    (guard : OutputGuardStatus) :
    Tracks request log (some (.step r.next_step_sequence input command))
      (r.recordStep input command guard).1 := by
  have hfollows := follows_step h hactive hknown input hgoals
  have hdefers := defers_deferred r input command guard
  have hfilled := (h.toPublished.deferred input command guard).fill hfollows
  have hpublished : Published request log (some (.step r.next_step_sequence input command))
      (recorded request log.length r input command guard) :=
    { hfilled with holds := fun entry hentry => ⟨(hfilled.holds entry hentry).view,
        (hfilled.holds entry hentry).bytes⟩ }
  have hsummary : (recorded request log.length r input command guard).summary =
      { r.summary with
        recorded_steps := r.summary.recorded_steps + 1
        queue_high_water := 1 } := by
    show { (deferred r input command guard).summary with
      recorded_steps := (deferred r input command guard).summary.recorded_steps + 1
      queue_high_water := 1 } = _
    rw [hdefers.summary]
  have hsteps : stepCount (log ++ [.step r.next_step_sequence input command]) = stepCount log + 1 :=
    stepCount_concat ..
  have hcount := h.recorded
  have hnext := h.next_step
  have hroom := h.room hactive
  have hbound : request.step_count.toNat ≤ 32 := UInt8.le_iff_toNat_le.mp h.bound
  rw [Option.toList_none, List.append_nil] at hcount hnext hroom
  have hrecorded : (r.summary.recorded_steps + 1).toNat = stepCount log + 1 := by
    rw [UInt8.toNat_add, hcount]
    show (stepCount log + 1) % 256 = _
    omega
  have hprogress : Progress log (some (.step r.next_step_sequence input command))
      (recorded request log.length r input command guard) :=
    { recorded := by
        rw [hsummary, Option.toList_some, hsteps]
        exact hrecorded
      next_step := by
        rw [Option.toList_some, hsteps]
        show (deferred r input command guard).next_step_sequence.toNat = _
        rw [hdefers.next_step, UInt32.toNat_add, hnext]
        show (stepCount log + 1 + 1) % UInt32.size = _
        exact Nat.mod_eq_of_lt (Nat.lt_of_le_of_lt (by omega : _ ≤ 34) (by decide))
      active := fun _ => by
        rw [hsummary, Option.toList_some, ended_concat]
        exact ⟨(h.active hactive).1, nofun⟩
      config_pending := fun _ hpending => by
        have hsame : (deferred r input command guard).config_pending = true := hpending
        rw [hdefers.config_pending, hknown] at hsame
        exact nomatch hsame
      config_known := fun _ _ => ⟨_, List.getLast?_concat, nofun⟩
      marker := fun hpending => by
        rcases hdefers.marker hpending with hbefore | hseq
        · obtain ⟨_, _, hslot⟩ := h.marker hbefore
          cases hslot
        · refine ⟨input, command, ?_⟩
          show _ = some (Entry.step (deferred r input command guard).deferred_marker_step_sequence _ _)
          rw [hseq]
      output := fun hpending => by
        refine ⟨_, rfl, ?_⟩
        rcases hdefers.output hpending with hbefore | hseq
        · obtain ⟨_, hslot, _⟩ := h.output hbefore
          cases hslot
        · show _ = some (deferred r input command guard).deferred_output_step_sequence
          rw [hseq]
          rfl
      terminal := fun hterminal => by
        rw [hsummary] at hterminal
        exact absurd ((h.active hactive).1.symm.trans hterminal) Bool.false_ne_true
      ending := by
        rintro entry ⟨⟩ hend
        cases hend
      finished := fun hidle => by
        rw [hsummary] at hidle
        exact nomatch hidle.symm.trans hactive }
  have hlive : Live (recorded request log.length r input command guard) := by
    refine .inl ?_
    rw [hsummary]
    exact hactive
  rw [h.toPublished.envelope.recordStep_eq]
  split
  · exact tracks_finishCapture hpublished hprogress hlive _ _
  · rename_i hmissing
    refine { hpublished, hprogress with room := fun _ => ?_ }
    rw [Option.toList_some, hsteps]
    rw [hsummary] at hmissing
    have hlt := UInt8.lt_iff_toNat_lt.mp (UInt8.not_le.mp hmissing)
    rwa [hrecorded, h.requested] at hlt

/-- The configuration of a step is taken or is there; the log does not see it. -/
theorem tracks_adopted (h : Tracks request log none r) (config : Controller.ControllerConfigSnapshot) :
    Tracks request log none (adopted r config) ∧ (adopted r config).summary = r.summary ∧
      (adopted r config).config_pending = r.config_pending ∧
      (adopted r config).next_step_sequence = r.next_step_sequence := by
  unfold adopted
  split
  · exact ⟨h, rfl, rfl, rfl⟩
  · refine ⟨?_, rfl, rfl, rfl⟩
    exact ⟨h.toPublished.of_free rfl rfl rfl rfl rfl rfl, { h.toProgress with }, h.room⟩

theorem tracks_config (h : Tracks request log none r) (hactive : r.summary.active = true)
    (hpending : r.config_pending = true) (config : Controller.ControllerConfigSnapshot) (slot : List UInt8) :
    Tracks request log (some (.config config))
      (fill request log.length (.config config) { r with config_pending := false, slot }) := by
  have hbegin := h.config_pending hactive hpending
  have hcount := h.recorded
  have hnext := h.next_step
  have hroom := h.room hactive
  rw [Option.toList_none, List.append_nil] at hbegin hcount hnext hroom
  have hsteps : stepCount (log ++ [.config config]) = stepCount log := stepCount_concat ..
  have hfree : Published request log none { r with config_pending := false, slot } :=
    h.toPublished.of_free rfl rfl rfl rfl rfl rfl
  have hfollows : Follows request log (.config config) := hbegin
  refine { hfree.fill hfollows with
    recorded := ?_, next_step := ?_, active := ?_, config_pending := ?_, config_known := ?_,
    marker := ?_, output := ?_, terminal := ?_, ending := ?_, finished := ?_, room := ?_ }
  · rw [Option.toList_some, hsteps]
    exact hcount
  · rw [Option.toList_some, hsteps]
    exact hnext
  · intro _
    rw [Option.toList_some, ended_concat]
    exact ⟨(h.active hactive).1, nofun⟩
  · intro _ hnot
    exact nomatch hnot
  · intro _ _
    exact ⟨_, List.getLast?_concat, nofun⟩
  · intro hmarker
    obtain ⟨_, _, hslot⟩ := h.marker hmarker
    cases hslot
  · intro houtput
    obtain ⟨_, hslot, _⟩ := h.output houtput
    cases hslot
  · exact h.terminal
  · rintro entry ⟨⟩ hend
    cases hend
  · intro hidle
    exact nomatch hidle.symm.trans hactive
  · intro _
    rw [Option.toList_some, hsteps]
    exact hroom

theorem tracks_config_failed (h : Tracks request log none r) (hactive : r.summary.active = true)
    (slot : List UInt8) (reason : CaptureEndReason) (guard : OutputGuardStatus) :
    Tracks request log none ({ r with config_pending := false, slot }.finishCapture reason guard) := by
  have hfinished := tracks_finishCapture h.toPublished h.toProgress (.inl hactive) reason guard
  refine ⟨hfinished.toPublished.of_free rfl rfl rfl rfl rfl rfl, ?_, hfinished.room⟩
  exact { hfinished.toProgress with
    config_pending := nofun
    config_known := nofun }

structure Fits (r : TraceRecorder) (input : ControllerStepInput) (command : Controller.RobotCommand) :
    Prop where
  goals : command.goals.joints.length ≤ kNumServos
  revision : input.config.revision = r.config_revision
  crc : snapshotCrc input.config = r.config_payload_crc16

/-- What is in the slot after a step, and how the recorder stands then. -/
inductive StepOutcome (slot : Option Entry) (r : TraceRecorder) (input : ControllerStepInput)
    (command : Controller.RobotCommand) : Option Entry → Standing → Prop where
  | ignored (hskip : r.summary.active = true → r.slot_ready = true) :
      StepOutcome slot r input command slot r.standing
  | failed (s : Standing) (hactive : r.summary.active = true)
      (hfragments : s.fragments = r.emitted_fragment_count)
      (hunfit : r.config_pending = true → r.slot_ready = false ∧ ¬ Fits r input command) :
      StepOutcome slot r input command slot (s.finish .transportOverflow)
  | configured (hactive : r.summary.active = true) (hslot : slot = none)
      (hpending : r.config_pending = true) :
      StepOutcome slot r input command (some (.config input.config))
        { (adopted r input.config).standing with config_pending := false }
  | recorded (hactive : r.summary.active = true) (hslot : slot = none)
      (hknown : r.config_pending = false)
      (hgoals : command.goals.joints.length ≤ kNumServos)
      (hrevision : input.config.revision = (adopted r input.config).config_revision) (n : UInt32) :
      StepOutcome slot r input command (some (.step n input command))
        { (adopted r input.config).standing with recorded_steps := r.summary.recorded_steps + 1 }
  | completed (hactive : r.summary.active = true) (hslot : slot = none)
      (hknown : r.config_pending = false)
      (hgoals : command.goals.joints.length ≤ kNumServos)
      (hrevision : input.config.revision = (adopted r input.config).config_revision)
      (hlast : r.summary.recorded_steps + 1 ≥ r.summary.requested_steps) (n : UInt32) :
      StepOutcome slot r input command (some (.step n input command))
        ({ (adopted r input.config).standing with
          recorded_steps := r.summary.recorded_steps + 1 }.finish .complete)

theorem adopted_revision {config : Controller.ControllerConfigSnapshot}
    (hrevision : config.revision = r.config_revision) :
    config.revision = (adopted r config).config_revision := by
  unfold adopted
  split
  · exact hrevision
  · rfl

theorem adopted_crc {config : Controller.ControllerConfigSnapshot}
    (hcrc : snapshotCrc config = r.config_payload_crc16) :
    snapshotCrc config = (adopted r config).config_payload_crc16 := by
  unfold adopted
  split
  · exact hcrc
  · dsimp only
    rw [← hcrc]
    unfold snapshotCrc configPayload
    cases config.valid <;> rfl

theorem tracks_captureStep (h : Tracks request log slot r) (input : ControllerStepInput)
    (command : Controller.RobotCommand) (guard : OutputGuardStatus) :
    ∃ slot', Tracks request log slot' (r.captureStep input command guard).1 ∧
      (slot.isSome = true → slot' = slot) ∧
      StepOutcome slot r input command slot' (r.captureStep input command guard).1.standing := by
  unfold TraceRecorder.captureStep
  cases hactive : r.summary.active with
  | false =>
    refine ⟨slot, h, fun _ => rfl, .ignored fun hnot => ?_⟩
    exact nomatch hactive.symm.trans hnot
  | true =>
    rw [Bool.not_true, if_neg Bool.false_ne_true]
    cases slot with
    | some entry =>
      have hready : r.slot_ready = true := h.ready
      rw [h.ready, Option.isSome_some, if_pos rfl]
      split
      · exact ⟨_, h, fun _ => rfl, .ignored fun _ => hready⟩
      · rename_i hsome
        refine ⟨_, tracks_finishCapture h.toPublished h.toProgress (.inl hactive) _ _, fun _ => rfl,
          .failed r.standing hactive rfl fun hpending => ?_⟩
        -- no step has been recorded while the configuration is missing
        obtain ⟨revision, crc, guard', hlog⟩ := h.config_pending hactive hpending
        have hrecorded := h.recorded
        rw [hlog] at hrecorded
        exact absurd (UInt8.toNat_inj.mp hrecorded) hsome
    | none =>
      have hready : r.slot_ready = false := h.ready
      rw [h.ready, Option.isSome_none, if_neg Bool.false_ne_true, adoptConfig_eq]
      obtain ⟨hadopted, hsummary, hpending, hnext⟩ := tracks_adopted h input.config
      have hactive' : (adopted r input.config).summary.active = true := by rw [hsummary, hactive]
      have hlive : Live (adopted r input.config) := .inl hactive'
      have hfragments : (adopted r input.config).emitted_fragment_count = r.emitted_fragment_count := by
        unfold adopted
        split <;> rfl
      split
      · rename_i hgoals
        exact ⟨_, tracks_finishCapture h.toPublished h.toProgress (.inl hactive) _ _, nofun,
          .failed r.standing hactive rfl fun _ => ⟨hready, fun hfits => Nat.not_lt.mpr hfits.goals hgoals⟩⟩
      rename_i hgoals
      dsimp only
      split
      · rename_i hrevision
        refine ⟨_, tracks_finishCapture hadopted.toPublished hadopted.toProgress hlive _ _, nofun,
          .failed (adopted r input.config).standing hactive hfragments fun _ => ⟨hready, fun hfits => ?_⟩⟩
        exact (bne_iff_ne.mp hrevision) (adopted_revision hfits.revision)
      rename_i hrevision
      have hsame : input.config.revision = (adopted r input.config).config_revision := by
        simpa using hrevision
      cases hconfig : (adopted r input.config).config_pending with
      | false =>
        rw [if_neg Bool.false_ne_true]
        have hstanding := standing_recordStep (adopted r input.config) hadopted.toPublished.envelope input
          command guard
        rw [hsummary] at hstanding
        refine ⟨_, tracks_recordStep hadopted hactive' hconfig input (Nat.not_lt.mp hgoals) guard, nofun, ?_⟩
        rw [hstanding]
        split
        · rename_i hlast
          exact .completed hactive rfl (hpending.symm.trans hconfig) (Nat.not_lt.mp hgoals) hsame hlast _
        · exact .recorded hactive rfl (hpending.symm.trans hconfig) (Nat.not_lt.mp hgoals) hsame _
      | true =>
        have hfree : Published request log none
            { adopted r input.config with config_pending := false } :=
          hadopted.toPublished.of_free rfl rfl rfl rfl rfl rfl
        rw [if_pos rfl, hfree.envelope.publishConfig_eq]
        by_cases hmismatch : input.config.valid = true ∧
            Protocol.crc16 (configPayload input.config) ≠ (adopted r input.config).config_payload_crc16
        · rw [if_pos hmismatch]
          refine ⟨_, tracks_config_failed hadopted hactive' _ _ _, nofun,
            .failed { (adopted r input.config).standing with config_pending := false } hactive hfragments
              fun _ => ⟨hready, fun hfits => hmismatch.2 ?_⟩⟩
          have hcrc := adopted_crc hfits.crc
          unfold snapshotCrc at hcrc
          rwa [if_pos hmismatch.1] at hcrc
        · rw [if_neg hmismatch]
          exact ⟨_, tracks_config hadopted hactive' hconfig _ _, nofun,
            .configured hactive rfl (hpending.symm.trans hconfig)⟩

def Refused (r : TraceRecorder) (request : CaptureRequest) : Prop :=
  Live r ∨ request.session_id = 0 ∨ request.capture_id = 0 ∨ request.step_count < 1 ∨
    request.step_count > kMaxCaptureSteps

/-- The revision that `Begin` tells. -/
def begunRevision (config : Option Controller.ControllerConfigSnapshot) : UInt32 :=
  match config with
  | none => 0
  | some config => config.revision

/-- The checksum that `Begin` tells. -/
def begunCrc (config : Option Controller.ControllerConfigSnapshot) : UInt16 :=
  match config with
  | none => 0
  | some config => if config.valid then Protocol.crc16 (payloadOf config.robot) else 0

/-- The recorder before `Begin` is published. -/
def begun (request : CaptureRequest) (guard : OutputGuardStatus)
    (config : Option Controller.ControllerConfigSnapshot) (slot : List UInt8) : TraceRecorder where
  summary :=
    { session_id := request.session_id
      capture_id := request.capture_id
      requested_steps := request.step_count
      active := true }
  initial_guard := guard
  final_guard := guard
  last_guard := guard
  config_source_set := config.isSome
  config_revision := begunRevision config
  config_payload_crc16 := begunCrc config
  config_pending := true
  slot

/-- What `Begin` says. -/
def beginEntry (guard : OutputGuardStatus) (config : Option Controller.ControllerConfigSnapshot) :
    Entry := .begin (begunRevision config) (begunCrc config) guard

theorem publishBegin_eq (request : CaptureRequest) (guard : OutputGuardStatus)
    (config : Option Controller.ControllerConfigSnapshot) (slot : List UInt8) :
    (begun request guard config slot).publishBegin =
      (fill request 0 (beginEntry guard config) (begun request guard config slot), true) :=
  Envelope.write_eq ⟨rfl, rfl, rfl, rfl⟩ (beginEntry guard config)

theorem begin_cases (r : TraceRecorder) (request : CaptureRequest) (guard : OutputGuardStatus)
    (config : Option Controller.ControllerConfigSnapshot) :
    (Refused r request ∧ r.begin request guard config = (r, false)) ∨
      (¬ Refused r request ∧ ∃ slot, r.begin request guard config =
        (fill request 0 (beginEntry guard config) (begun request guard config slot), true)) := by
  have hcapacity : kConfigPayloadSize ≤ kMaxLogicalRecordBytes := by decide
  have hrefused : (r.summary.active || r.summary.terminal_pending || request.session_id == 0 ||
      request.capture_id == 0 || decide (request.step_count < 1) ||
      decide (request.step_count > kMaxCaptureSteps)) = true ↔ Refused r request := by
    simp [Refused, Live, or_assoc]
  unfold TraceRecorder.begin
  split
  · rename_i hcond
    exact .inl ⟨hrefused.mp hcond, rfl⟩
  · rename_i hcond
    refine .inr ⟨fun h => hcond (hrefused.mpr h), ?_⟩
    cases config with
    | none => exact ⟨_, publishBegin_eq request guard none _⟩
    | some config =>
      cases hvalid : config.valid with
      | false =>
        refine ⟨.replicate kMaxLogicalRecordBytes 0, ?_⟩
        rw [← publishBegin_eq]
        dsimp only
        rw [if_neg (by rw [hvalid]; exact Bool.false_ne_true)]
        unfold begun begunRevision begunCrc
        dsimp only
        rw [hvalid]
        rfl
      | true =>
        refine ⟨overwrite (.replicate kMaxLogicalRecordBytes 0) 0 (payloadOf config.robot), ?_⟩
        rw [← publishBegin_eq]
        dsimp only
        rw [if_pos hvalid, serialize_eq hcapacity, if_neg (payloadOf_ne_zero _)]
        unfold begun begunRevision begunCrc
        dsimp only
        rw [hvalid]
        rfl

theorem begin_call {r' : TraceRecorder} {answer : RecorderAnswer} {guard : OutputGuardStatus}
    {config : Option Controller.ControllerConfigSnapshot}
    (hstep : r.call (.begin request guard config) = (r', answer)) :
    (answer = .accepted false ∧ r' = r) ∨
      (¬ Refused r request ∧ answer = .accepted true ∧ ∃ slot,
        r' = fill request 0 (beginEntry guard config) (begun request guard config slot)) := by
  have hanswer : RecorderAnswer.accepted (r.begin request guard config).2 = answer := congrArg Prod.snd hstep
  have hstate : (r.begin request guard config).1 = r' := congrArg Prod.fst hstep
  obtain ⟨-, heq⟩ | ⟨hrefused, slot, heq⟩ := begin_cases r request guard config
  · rw [heq] at hanswer hstate
    exact .inl ⟨hanswer.symm, hstate.symm⟩
  · rw [heq] at hanswer hstate
    exact .inr ⟨hrefused, hanswer.symm, slot, hstate.symm⟩

theorem tracks_begin (hrefused : ¬ Refused r request) (guard : OutputGuardStatus)
    (config : Option Controller.ControllerConfigSnapshot) (slot : List UInt8) :
    Tracks request [] (some (beginEntry guard config))
      (fill request 0 (beginEntry guard config) (begun request guard config slot)) where
  trace := grown_nil.concat rfl
  started := by
    intro hnil
    cases hnil
  bound := by
    unfold Refused at hrefused
    simp only [not_or] at hrefused
    exact UInt8.not_lt.mp hrefused.2.2.2.2
  session := rfl
  capture := rfl
  requested := rfl
  ready := rfl
  holds := by
    rintro entry ⟨⟩
    exact holds_fill ..
  next_record := rfl
  emitted := rfl
  recorded := rfl
  next_step := rfl
  active := fun _ => ⟨rfl, fun hended => nomatch ended_concat.mp hended⟩
  config_pending := fun _ _ => ⟨_, _, _, rfl⟩
  config_known := nofun
  marker := nofun
  output := nofun
  terminal := fun _ => not_ended_nil
  ending := by
    rintro entry ⟨⟩ hend
    cases hend
  finished := nofun
  room := by
    intro _
    unfold Refused at hrefused
    simp only [not_or] at hrefused
    have hpos := UInt8.le_iff_toNat_le.mp (UInt8.not_lt.mp hrefused.2.2.2.1)
    exact hpos

theorem tracks_abort (h : Tracks request log slot r) (reason : CaptureEndReason)
    (guard : OutputGuardStatus) : Tracks request log slot (r.abort reason guard) := by
  obtain ⟨-, heq⟩ | ⟨hlive, heq⟩ := abort_cases r reason guard
  · rw [heq]
    exact h
  · rw [heq]
    exact tracks_finishCapture h.toPublished h.toProgress hlive reason guard

theorem tracks_markNext (h : Tracks request log slot r) (marker_id : UInt32) :
    Tracks request log slot (r.markNext marker_id).1 := by
  unfold TraceRecorder.markNext
  split
  · exact h
  · exact { h with holds := fun entry hentry => ⟨(h.holds entry hentry).view, (h.holds entry hentry).bytes⟩ }

/-- What `End` says. -/
def endEntry (r : TraceRecorder) : Entry :=
  .end r.summary.end_reason r.summary.recorded_steps r.summary.queue_high_water r.emitted_record_count
    r.emitted_fragment_count r.final_guard

/-- The entry is the `End` of a recorder that stands so. -/
def Concludes (s : Standing) (entry : Entry) : Prop :=
  s.terminal = true ∧ ∃ queue_high_water record_count guard,
    entry = .end s.reason s.recorded_steps queue_high_water record_count s.fragments guard

theorem concludes_endEntry (hterminal : r.summary.terminal_pending = true) :
    Concludes r.standing (endEntry r) := ⟨hterminal, _, _, _, rfl⟩

theorem Envelope.publishEnd_eq (h : Envelope request count r) :
    r.publishEnd = (fill request count (endEntry r) r, true) := by
  have hbytes : r.endRecord = (endEntry r).bytes request := by
    show _ = putU8 r.summary.end_reason.wire ++ (putU8 request.step_count ++ _)
    rw [← h.requested]
    rfl
  unfold TraceRecorder.publishEnd
  rw [hbytes]
  exact h.write_eq (endEntry r)

theorem tracks_publishEnd (h : Tracks request log none r) (hterminal : r.summary.terminal_pending = true) :
    Tracks request log (some (endEntry r)) (fill request log.length (endEntry r) r) := by
  have hcount := h.recorded
  have hnext := h.next_step
  have hstarted := h.started
  have htrace := h.trace
  rw [Option.toList_none, List.append_nil] at hcount hnext hstarted htrace
  have hidle : r.summary.active ≠ true := by
    intro hactive
    exact absurd ((h.active hactive).1.symm.trans hterminal) Bool.false_ne_true
  have hsteps : stepCount (log ++ [endEntry r]) = stepCount log := stepCount_concat ..
  have hopen := h.terminal hterminal
  have hfollows : Follows request log (endEntry r) := by
    refine ⟨?_, hcount, ?_⟩
    · refine ⟨log.getLast hstarted, List.getLast?_eq_getLast_of_ne_nil hstarted, fun hend => ?_⟩
      exact hopen ⟨_, List.getLast?_eq_getLast_of_ne_nil hstarted, hend⟩
    · rw [h.emitted, UInt32.toNat_ofNat']
      exact Nat.mod_eq_of_lt (Nat.lt_of_le_of_lt (length_log_lt htrace h.bound) (by decide))
  refine { h.toPublished.fill hfollows with
    recorded := ?_, next_step := ?_, active := ?_, config_pending := ?_, config_known := ?_,
    marker := ?_, output := ?_, terminal := ?_, ending := ?_, finished := ?_, room := ?_ }
  · rw [Option.toList_some, hsteps]
    exact hcount
  · rw [Option.toList_some, hsteps]
    exact hnext
  iterate 3
    · intro hactive
      exact absurd hactive hidle
  · intro hmarker
    obtain ⟨_, _, hslot⟩ := h.marker hmarker
    cases hslot
  · intro houtput
    obtain ⟨_, hslot, _⟩ := h.output houtput
    cases hslot
  · exact h.terminal
  · intro _ _ _
    exact hterminal
  · intro _ hnot
    exact nomatch hnot.symm.trans hterminal
  · intro hactive
    exact absurd hactive hidle

theorem tracks_peek (h : Tracks request log slot r) :
    ∃ slot', Tracks request log slot' r.peek.1 ∧ (slot.isSome = true → slot' = slot) ∧
      r.peek.1.standing = r.standing ∧ ∀ entry ∈ slot', slot = none → Concludes r.standing entry := by
  unfold TraceRecorder.peek
  cases slot with
  | some entry =>
    rw [h.ready, Option.isSome_some, Bool.not_true, Bool.false_and, if_neg Bool.false_ne_true]
    exact ⟨_, h, fun _ => rfl, rfl, fun _ _ hnone => absurd hnone (Option.some_ne_none _)⟩
  | none =>
    cases hterminal : r.summary.terminal_pending with
    | false =>
      rw [Bool.and_false, if_neg Bool.false_ne_true]
      exact ⟨_, h, fun _ => rfl, rfl, fun entry hentry => absurd hentry (Option.not_mem_none entry)⟩
    | true =>
      rw [h.ready, Option.isSome_none, Bool.not_false, Bool.and_true, if_pos rfl,
        h.toPublished.envelope.publishEnd_eq]
      refine ⟨_, tracks_publishEnd h hterminal, nofun, rfl, fun entry hentry _ => ?_⟩
      obtain rfl := Option.some.inj hentry
      exact concludes_endEntry hterminal

theorem tracks_free (h : Tracks request log (some entry) r) (hend : entry.type ≠ .end)
    (hmarker : r.deferred_marker_pending = false) (houtput : r.deferred_output_pending = false) :
    Tracks request (log ++ [entry]) none
      { r with
        emitted_record_count := r.emitted_record_count + 1
        slot_ready := false } where
  toPublished := h.toPublished.pop
  recorded := by simpa using h.recorded
  next_step := by simpa using h.next_step
  active := by simpa using h.active
  config_pending := by simpa using h.config_pending
  config_known := by simpa using h.config_known
  marker := fun hpending => nomatch hmarker.symm.trans hpending
  output := fun hpending => nomatch houtput.symm.trans hpending
  terminal := fun _ hended => hend (ended_concat.mp hended)
  ending := by
    intro entry hentry
    cases hentry
  finished := fun hidle hnot => by
    obtain ⟨-, hnone⟩ := h.finished hidle hnot
    cases hnone
  room := by simpa using h.room

theorem tracks_end (h : Tracks request log (some entry) r) (hend : entry.type = .end) :
    Tracks request (log ++ [entry]) none
      { r with
        emitted_record_count := r.emitted_record_count + 1
        slot_ready := false
        summary := { r.summary with terminal_pending := false }
        completion_pending := true } := by
  have hterminal := h.ending entry rfl hend
  have hidle : r.summary.active ≠ true := by
    intro hactive
    exact absurd ((h.active hactive).1.symm.trans hterminal) Bool.false_ne_true
  exact
    { toPublished := h.toPublished.pop.of_free rfl rfl rfl rfl rfl rfl
      recorded := by simpa using h.recorded
      next_step := by simpa using h.next_step
      active := fun hactive => absurd hactive hidle
      config_pending := fun hactive => absurd hactive hidle
      config_known := fun hactive => absurd hactive hidle
      marker := fun hpending => by
        obtain ⟨input, command, hslot⟩ := h.marker hpending
        rw [Option.some.injEq] at hslot
        rw [hslot] at hend
        cases hend
      output := fun hpending => by
        obtain ⟨step, hslot, hstep⟩ := h.output hpending
        obtain rfl := Option.some.inj hslot
        cases entry <;> simp_all [Entry.type, Entry.stepBefore]
      terminal := nofun
      ending := by
        intro entry hentry
        cases hentry
      finished := fun _ _ => ⟨ended_concat.mpr hend, rfl⟩
      room := fun hactive => absurd hactive hidle }

theorem tracks_replace (h : Tracks request log (some entry) r) {next : Entry}
    (hfollows : Follows request (log ++ [entry]) next)
    (htype : next.type = .marker ∨ next.type = .outputBlocked) {r' : TraceRecorder}
    (hsummary : r'.summary = r.summary) (hnext : r'.next_record_sequence = r.next_record_sequence)
    (hemitted : r'.emitted_record_count = r.emitted_record_count + 1)
    (hsequence : r'.next_step_sequence = r.next_step_sequence)
    (hpending : r'.config_pending = r.config_pending)
    (hmarker : r'.deferred_marker_pending = false)
    (houtput : r'.deferred_output_pending = true →
      next.stepBefore = some r'.deferred_output_step_sequence) :
    Tracks request (log ++ [entry]) (some next) (fill request (log ++ [entry]).length next r') := by
  have hother (type : RecordType) (hmarker : type ≠ .marker) (hblocked : type ≠ .outputBlocked) :
      next.type ≠ type := by
    rintro rfl
    exact htype.elim hmarker hblocked
  have hsteps : stepCount (log ++ [entry] ++ [next]) = stepCount (log ++ [entry]) := by
    rw [stepCount_concat, if_neg (hother .step nofun nofun), Nat.add_zero]
  have hfree : Published request (log ++ [entry]) none { r' with slot_ready := false } :=
    h.toPublished.pop.of_free (by rw [hsummary]) (by rw [hsummary]) (by rw [hsummary]) rfl hnext hemitted
  have hfilled : Published request (log ++ [entry]) (some next) (fill request (log ++ [entry]).length next r') :=
    hfree.fill hfollows
  refine { hfilled with
    recorded := ?_, next_step := ?_, active := ?_, config_pending := ?_, config_known := ?_,
    marker := ?_, output := ?_, terminal := ?_, ending := ?_, finished := ?_, room := ?_ }
  · show r'.summary.recorded_steps.toNat = _
    rw [hsummary, Option.toList_some, hsteps]
    exact h.recorded
  · show r'.next_step_sequence.toNat = _
    rw [hsequence, Option.toList_some, hsteps]
    exact h.next_step
  · intro hactive
    show r'.summary.terminal_pending = false ∧ _
    rw [Option.toList_some, ended_concat, hsummary]
    have hactive' : r'.summary.active = true := hactive
    rw [hsummary] at hactive'
    exact ⟨(h.active hactive').1, hother .end nofun nofun⟩
  · intro hactive hwaits
    have hactive' : r'.summary.active = true := hactive
    have hwaits' : r'.config_pending = true := hwaits
    rw [hsummary] at hactive'
    rw [hpending] at hwaits'
    obtain ⟨revision, crc, guard, hlog⟩ := h.config_pending hactive' hwaits'
    rw [Option.toList_some] at hlog
    rw [hlog] at hfollows
    cases next with
    | marker marker_id now_ms safety_state step_sequence =>
      obtain ⟨input, command, hlast⟩ := hfollows
      cases hlast
    | outputBlocked step_sequence guard =>
      obtain ⟨last, hlast, hstep⟩ := hfollows
      cases hlast
      cases hstep
    | _ => exact htype.elim nofun nofun
  · intro _ _
    exact ⟨next, List.getLast?_concat, hother .begin nofun nofun⟩
  · intro hwaits
    have hwaits' : r'.deferred_marker_pending = true := hwaits
    exact nomatch hmarker.symm.trans hwaits'
  · intro hwaits
    exact ⟨next, rfl, houtput hwaits⟩
  · intro _
    exact not_ended_of_follows hfollows
  · rintro entry ⟨⟩ hend
    exact absurd hend (hother .end nofun nofun)
  · intro hidle hnot
    have hidle' : r'.summary.active = false := hidle
    have hnot' : r'.summary.terminal_pending = false := hnot
    rw [hsummary] at hidle' hnot'
    obtain ⟨-, hnone⟩ := h.finished hidle' hnot'
    cases hnone
  · intro hactive
    have hactive' : r'.summary.active = true := hactive
    rw [hsummary] at hactive'
    rw [Option.toList_some, hsteps]
    exact h.room hactive'

theorem tracks_acknowledge (h : Tracks request log (some entry) r) {view : RecordView}
    (hview : view.record_seq = r.slot_view.record_seq) :
    ∃ slot', Tracks request (log ++ [entry]) slot' (r.acknowledge view) ∧
      (r.acknowledge view).standing =
        (if entry.type = .end then { r.standing with terminal := false } else r.standing) ∧
      ∀ next ∈ slot', (next.type = .marker ∨ next.type = .outputBlocked) ∨
        Concludes r.standing next := by
  have hready : r.slot_ready = true := h.ready
  have htype : r.slot_view.type = entry.type := by rw [(h.holds entry rfl).view]; rfl
  unfold TraceRecorder.acknowledge
  rw [hready, hview, bne_self_eq_false, Bool.not_true, Bool.or_false, if_neg Bool.false_ne_true]
  rw [htype]
  by_cases hend : entry.type = .end
  · rw [if_pos hend, if_pos hend]
    exact ⟨none, tracks_end h hend, rfl, fun next hnext => absurd hnext (Option.not_mem_none next)⟩
  rw [if_neg hend, if_neg hend]
  have hwrite (next : Entry) {r' : TraceRecorder} (hsummary : r'.summary = r.summary)
      (hnext : r'.next_record_sequence = r.next_record_sequence) :
      r'.write next.type (next.bytes request) = (fill request (log ++ [entry]).length next r', true) := by
    refine Envelope.write_eq ⟨?_, ?_, ?_, ?_⟩ next
    · rw [hsummary, h.session]
    · rw [hsummary, h.capture]
    · rw [hsummary, h.requested]
    · rw [hnext, h.next_record]
      rfl
  unfold TraceRecorder.publishDeferred
  by_cases hmarker : r.deferred_marker_pending = true
  · obtain ⟨input, command, hslot⟩ := h.marker hmarker
    obtain rfl := Option.some.inj hslot
    have hpublish (r' : TraceRecorder) (hsummary : r'.summary = r.summary)
        (hnext : r'.next_record_sequence = r.next_record_sequence) :
        r'.publishMarker r.deferred_marker_id r.deferred_marker_time_ms
          r.deferred_marker_safety_state r.deferred_marker_step_sequence = _ :=
      hwrite (.marker _ _ _ _) hsummary hnext
    have hfollows : Follows request (log ++ [.step r.deferred_marker_step_sequence input command])
        (.marker r.deferred_marker_id r.deferred_marker_time_ms r.deferred_marker_safety_state
          r.deferred_marker_step_sequence) := ⟨input, command, List.getLast?_concat⟩
    rw [if_pos hmarker, hpublish]
    · refine ⟨_, tracks_replace h hfollows (.inl rfl) rfl rfl rfl rfl rfl rfl fun houtput => ?_, rfl, ?_⟩
      · obtain ⟨step, hslot, hstep⟩ := h.output houtput
        obtain rfl := Option.some.inj hslot
        exact hstep
      · rintro next ⟨⟩
        exact .inl (.inl rfl)
    · rfl
    · rfl
  rw [if_neg hmarker]
  by_cases houtput : r.deferred_output_pending = true
  · obtain ⟨step, hslot, hstep⟩ := h.output houtput
    obtain rfl := Option.some.inj hslot
    have hpublish (r' : TraceRecorder) (hsummary : r'.summary = r.summary)
        (hnext : r'.next_record_sequence = r.next_record_sequence) :
        r'.publishOutputBlocked r.deferred_output_step_sequence r.deferred_output_guard = _ :=
      hwrite (.outputBlocked _ _) hsummary hnext
    have hfollows : Follows request (log ++ [entry])
        (.outputBlocked r.deferred_output_step_sequence r.deferred_output_guard) :=
      ⟨entry, List.getLast?_concat, hstep⟩
    rw [if_pos houtput, hpublish]
    · refine ⟨_, tracks_replace h hfollows (.inr rfl) rfl rfl rfl rfl rfl (Bool.eq_false_of_not_eq_true hmarker)
        nofun, rfl, ?_⟩
      rintro next ⟨⟩
      exact .inl (.inr rfl)
    · rfl
    · rfl
  rw [if_neg houtput]
  have hfree := tracks_free h hend (Bool.eq_false_of_not_eq_true hmarker)
    (Bool.eq_false_of_not_eq_true houtput)
  dsimp only
  by_cases hterminal : r.summary.terminal_pending = true
  · rw [if_pos hterminal, hfree.toPublished.envelope.publishEnd_eq]
    refine ⟨_, tracks_publishEnd hfree hterminal, rfl, ?_⟩
    rintro next ⟨⟩
    exact .inr ⟨hterminal, _, _, _, rfl⟩
  · rw [if_neg hterminal]
    exact ⟨none, hfree, rfl, fun next hnext => absurd hnext (Option.not_mem_none next)⟩

end HexapodVerified.Hil
