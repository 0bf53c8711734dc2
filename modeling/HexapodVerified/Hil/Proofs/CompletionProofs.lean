import HexapodVerified.Hil.Proofs.CaptureRunProofs

/-!
# How a capture ends

Of the recorder only a few values bear on how a capture ends: its ids, whether it is running or has its end
to come, the type and the first byte of the record in the slot, and the reason. On them every call is one
of a few moves, whatever the slot holds, so that `reset` and `abandonCurrent` are no exceptions here. No
move lets a second `End` through. An `abort` that comes while `End` is in the slot changes the reason and
not the record.
-/

namespace HexapodVerified.Hil

open Transition

structure Phase where
  session_id : UInt32
  capture_id : UInt32
  reason : CaptureEndReason
  active : Bool
  terminal : Bool
  slot : Option (RecordType × Option UInt8)
  completion : Bool

def Phase.Live (p : Phase) : Prop := p.active = true ∨ p.terminal = true

def Phase.finish (p : Phase) (reason : CaptureEndReason) : Phase :=
  { p with active := false, terminal := true, reason }

def TraceRecorder.phase (r : TraceRecorder) : Phase where
  session_id := r.summary.session_id
  capture_id := r.summary.capture_id
  reason := r.summary.end_reason
  active := r.summary.active
  terminal := r.summary.terminal_pending
  slot := if r.slot_ready then some (r.slot_view.type, r.currentRecord.bytes.head?) else none
  completion := r.completion_pending

variable {request : CaptureRequest} {entry : Entry} {r r' : TraceRecorder} {count : Nat}
  {p p' : Phase} {cs earlier : List CaptureRecords} {c : CaptureRecords} {record : Record}
  {h : List RecorderEvent} {call : RecorderCall} {answer : RecorderAnswer}

/-- What a call that acknowledges nothing does inside a capture. -/
inductive Turn (p : Phase) : Phase → Prop where
  | kept : Turn p p
  | finished (reason : CaptureEndReason) (hactive : p.active = true) : Turn p (p.finish reason)
  | filled (type : RecordType) (byte : Option UInt8) (hactive : p.active = true)
      (hend : type ≠ .end) : Turn p { p with slot := some (type, byte) }
  | completed (byte : Option UInt8) (hactive : p.active = true) :
      Turn p ({ p with slot := some (.step, byte) }.finish .complete)
  | ended (hterminal : p.terminal = true) : Turn p { p with slot := some (.end, some p.reason.wire) }

inductive Sent (p : Phase) (type : RecordType) : Phase → Prop where
  | concluded (hend : type = .end) :
      Sent p type { p with slot := none, terminal := false, completion := true }
  | replaced (next : RecordType) (byte : Option UInt8) (hend : type ≠ .end) (hnext : next ≠ .end) :
      Sent p type { p with slot := some (next, byte) }
  | freed (hend : type ≠ .end) : Sent p type { p with slot := none }
  | ended (hend : type ≠ .end) (hterminal : p.terminal = true) :
      Sent p type { p with slot := some (.end, some p.reason.wire) }

theorem envelope_self (r : TraceRecorder) :
    Envelope
      { session_id := r.summary.session_id
        capture_id := r.summary.capture_id
        step_count := r.summary.requested_steps }
      (r.next_record_sequence - 1).toNat r where
  session := rfl
  capture := rfl
  requested := rfl
  next := by
    rw [UInt32.ofNat_add, UInt32.ofNat_toNat]
    show _ = r.next_record_sequence - 1 + 1
    rw [UInt32.sub_add_cancel]

/-- The phase sees the type and the first byte of what is published. -/
theorem phase_fill (request : CaptureRequest) (count : Nat) (entry : Entry) (r : TraceRecorder) :
    (fill request count entry r).phase =
      { r.phase with slot := some (entry.type, (entry.bytes request).head?) } := by
  have hbytes : (fill request count entry r).currentRecord.bytes = entry.bytes request := by
    rw [currentRecord_eq (holds_fill request count entry r)]
    rfl
  unfold TraceRecorder.phase
  rw [hbytes]
  rfl

theorem phase_of_free (hready : r.slot_ready = false) (hready' : r'.slot_ready = false)
    (hsummary : r'.summary = r.summary) (hcompletion : r'.completion_pending = r.completion_pending) :
    r'.phase = r.phase := by
  unfold TraceRecorder.phase
  rw [hready, hready', hsummary, hcompletion]
  rfl

theorem phase_adopted (config : Controller.ControllerConfigSnapshot) (hready : r.slot_ready = false) :
    (adopted r config).phase = r.phase ∧ (adopted r config).slot_ready = false := by
  unfold adopted
  split
  · exact ⟨rfl, hready⟩
  · exact ⟨phase_of_free hready hready rfl rfl, hready⟩

theorem turn_recordStep (hactive : r.summary.active = true) (hready : r.slot_ready = false)
    (input : ControllerStepInput) (command : Controller.RobotCommand) (guard : OutputGuardStatus) :
    Turn r.phase (r.recordStep input command guard).1.phase := by
  have hdefers := defers_deferred r input command guard
  have hphase : (deferred r input command guard).phase = r.phase :=
    phase_of_free hready (hdefers.ready.trans hready) hdefers.summary hdefers.completion
  have hrecorded (request : CaptureRequest) (count : Nat) :
      (recorded request count r input command guard).phase =
        { r.phase with slot := some (.step, (stepRecord r.next_step_sequence input command).head?) } := by
    rw [← hphase]
    exact phase_fill ..
  rw [(envelope_self r).recordStep_eq]
  split
  · have hfinish (x : TraceRecorder) : (x.finishCapture .complete guard).phase = x.phase.finish .complete := rfl
    rw [hfinish, hrecorded]
    exact .completed _ hactive
  · rw [hrecorded]
    exact .filled _ _ hactive nofun

theorem turn_finishCapture (hphase : r'.phase = r.phase) (hactive : r.summary.active = true)
    (reason : CaptureEndReason) (guard : OutputGuardStatus) :
    Turn r.phase (r'.finishCapture reason guard).phase := by
  have hfinish : (r'.finishCapture reason guard).phase = r'.phase.finish reason := rfl
  rw [hfinish, hphase]
  exact .finished reason hactive

theorem turn_publishConfig (hactive : r.summary.active = true) (hready : r.slot_ready = false)
    (config : Controller.ControllerConfigSnapshot) (guard : OutputGuardStatus) :
    Turn r.phase (match { r with config_pending := false }.publishConfig config with
      | (r, false) => (r.finishCapture .transportOverflow guard, false)
      | (r, true) => (r, true)).1.phase := by
  have hslot (slot : List UInt8) : { r with config_pending := false, slot }.phase = r.phase :=
    phase_of_free hready hready rfl rfl
  rw [(envelope_self { r with config_pending := false }).publishConfig_eq]
  by_cases hmismatch : config.valid = true ∧
      Protocol.crc16 (configPayload config) ≠ r.config_payload_crc16
  · rw [if_pos hmismatch]
    exact turn_finishCapture (hslot _) hactive _ guard
  · rw [if_neg hmismatch]
    rw [phase_fill, hslot]
    exact .filled _ _ hactive nofun

theorem turn_captureStep (r : TraceRecorder) (input : ControllerStepInput)
    (command : Controller.RobotCommand) (guard : OutputGuardStatus) :
    Turn r.phase (r.captureStep input command guard).1.phase := by
  unfold TraceRecorder.captureStep
  by_cases hactive : r.summary.active = true
  · rw [hactive, Bool.not_true, if_neg Bool.false_ne_true]
    by_cases hready : r.slot_ready = true
    · rw [if_pos hready]
      split
      · exact .kept
      · exact .finished _ hactive
    · rw [if_neg hready, adoptConfig_eq]
      have hfree := Bool.eq_false_of_not_eq_true hready
      obtain ⟨hphase, hready'⟩ := phase_adopted input.config hfree
      have hactive' : (adopted r input.config).summary.active = true :=
        (congrArg Phase.active hphase).trans hactive
      split
      · exact .finished _ hactive
      dsimp only
      split
      · exact turn_finishCapture hphase hactive _ guard
      split
      · rw [← hphase]
        exact turn_publishConfig hactive' hready' input.config guard
      · rw [← hphase]
        exact turn_recordStep hactive' hready' input command guard
  · rw [Bool.eq_false_of_not_eq_true hactive, Bool.not_false, if_pos rfl]
    exact .kept

theorem phase_publishEnd (r : TraceRecorder) :
    r.publishEnd.1.phase = { r.phase with slot := some (.end, some r.phase.reason.wire) } ∧
      r.publishEnd.2 = true := by
  rw [(envelope_self r).publishEnd_eq]
  exact ⟨phase_fill .., rfl⟩

theorem turn_peek (r : TraceRecorder) : Turn r.phase r.peek.1.phase := by
  unfold TraceRecorder.peek
  by_cases hends : (!r.slot_ready && r.summary.terminal_pending) = true
  · obtain ⟨hphase, hpublished⟩ := phase_publishEnd r
    rw [if_pos hends]
    have hterminal := ((Bool.and_eq_true ..).mp hends).2
    have hturn : Turn r.phase r.publishEnd.1.phase := by
      rw [hphase]
      exact .ended hterminal
    revert hturn hpublished
    rcases r.publishEnd with ⟨r', published⟩
    rintro rfl hturn
    exact hturn
  · rw [if_neg hends]
    exact .kept

theorem sent_acknowledge {view : RecordView} (hready : r.slot_ready = true)
    (hview : view.record_seq = r.slot_view.record_seq) :
    Sent r.phase r.slot_view.type (r.acknowledge view).phase := by
  unfold TraceRecorder.acknowledge
  rw [hready, hview, bne_self_eq_false, Bool.not_true, Bool.or_false, if_neg Bool.false_ne_true]
  by_cases hend : r.slot_view.type = .end
  · rw [if_pos hend]
    exact .concluded hend
  rw [if_neg hend]
  unfold TraceRecorder.publishDeferred
  by_cases hmarker : r.deferred_marker_pending = true
  · have hpublish (x : TraceRecorder) (marker_id now_ms : UInt32) (safety_state : UInt8)
        (step_sequence : UInt32) : x.publishMarker marker_id now_ms safety_state step_sequence = _ :=
      (envelope_self x).write_eq (.marker marker_id now_ms safety_state step_sequence)
    rw [if_pos hmarker, hpublish]
    rw [phase_fill]
    exact .replaced .marker _ hend nofun
  rw [if_neg hmarker]
  by_cases houtput : r.deferred_output_pending = true
  · have hpublish (x : TraceRecorder) (step_sequence : UInt32) (guard : OutputGuardStatus) :
        x.publishOutputBlocked step_sequence guard = _ :=
      (envelope_self x).write_eq (.outputBlocked step_sequence guard)
    rw [if_pos houtput, hpublish]
    rw [phase_fill]
    exact .replaced .outputBlocked _ hend nofun
  rw [if_neg houtput]
  dsimp only
  by_cases hterminal : r.summary.terminal_pending = true
  · rw [if_pos hterminal]
    have hphase := (phase_publishEnd
      { r with
        emitted_record_count := r.emitted_record_count + 1
        slot_ready := false }).1
    rw [hphase]
    exact .ended hend hterminal
  · rw [if_neg hterminal]
    exact .freed hend

/-- `abandonCurrent` is called only while there is a record to abandon, as its caller does. -/
def AbandonsRecord (e : RecorderEvent) : Prop :=
  match e.label.1 with
  | .abandonCurrent _ _ => e.pre.slot_ready = true
  | _ => True

def RecorderCall.abortReason : RecorderCall → Option CaptureEndReason
  | .abort reason _ => some reason
  | _ => none

/-- An `abort` that comes while `End` is in the slot gives the reason that `End` has. -/
def KeepsReason (e : RecorderEvent) : Prop :=
  ∀ reason ∈ e.label.1.abortReason, e.pre.slot_ready = true → e.pre.slot_view.type = .end →
    reason = e.pre.summary.end_reason

instance : DecidablePred KeepsReason := fun e =>
  inferInstanceAs (Decidable (∀ reason ∈ e.label.1.abortReason, e.pre.slot_ready = true →
    e.pre.slot_view.type = .end → reason = e.pre.summary.end_reason))

def begunPhase (request : CaptureRequest) (byte : Option UInt8) : Phase where
  session_id := request.session_id
  capture_id := request.capture_id
  reason := .complete
  active := true
  terminal := false
  slot := some (.begin, byte)
  completion := false

inductive Move (e : RecorderEvent) : Prop where
  | begun (request : CaptureRequest) (byte : Option UInt8) (hstarted : started e = some request)
      (hphase : e.post.phase = begunPhase request byte)
  | sent (hstarted : started e = none) (hsent : acknowledged e = some e.pre.currentRecord)
      (hready : e.pre.slot_ready = true) (hphase : Sent e.pre.phase e.pre.slot_view.type e.post.phase)
  | turned (hstarted : started e = none) (hsent : acknowledged e = none)
      (hphase : Turn e.pre.phase e.post.phase)
  | cleared (hstarted : started e = none) (hsent : acknowledged e = none)
      (hphase : e.post.phase = TraceRecorder.reset.phase)
  | aborted (reason : CaptureEndReason) (hstarted : started e = none) (hsent : acknowledged e = none)
      (hlive : e.pre.phase.Live) (hphase : e.post.phase = e.pre.phase.finish reason)
      (hreason : KeepsReason e → ∀ byte, e.pre.phase.slot = some (.end, byte) →
        reason = e.pre.phase.reason)
  | abandoned (reason : CaptureEndReason) (hstarted : started e = none)
      (hsent : acknowledged e = none) (hready : e.pre.phase.slot ≠ none)
      (hphase : e.post.phase = { e.pre.phase with slot := none }.finish reason)
  | taken (hstarted : started e = none) (hsent : acknowledged e = none)
      (hphase : e.post.phase = { e.pre.phase with completion := false })

theorem phase_slot (hready : r.slot_ready = true) :
    r.phase.slot = some (r.currentRecord.view.type, r.currentRecord.bytes.head?) := by
  unfold TraceRecorder.phase
  rw [hready]
  rfl

theorem move_of_call (habandons : AbandonsRecord ⟨r, (call, answer), r'⟩)
    (hstep : r.call call = (r', answer)) : Move ⟨r, (call, answer), r'⟩ := by
  have hpost : (r.call call).1 = r' := congrArg Prod.fst hstep
  cases call with
  | reset =>
    have hstate : TraceRecorder.reset = r' := hpost
    exact .cleared rfl rfl (congrArg TraceRecorder.phase hstate.symm)
  | begin next guard config =>
    obtain ⟨rfl, rfl⟩ | ⟨hrefused, rfl, slot', rfl⟩ := begin_call hstep
    · exact .turned rfl rfl .kept
    · exact .begun next _ rfl (phase_fill ..)
  | captureStep input command guard =>
    have hstate : (r.captureStep input command guard).1 = r' := hpost
    exact .turned rfl rfl (hstate ▸ turn_captureStep r input command guard)
  | markNext marker_id =>
    have hstate : (r.markNext marker_id).1 = r' := hpost
    have hphase : (r.markNext marker_id).1.phase = r.phase := by
      unfold TraceRecorder.markNext
      split <;> rfl
    refine .turned rfl rfl ?_
    rw [hstate] at hphase
    rw [hphase]
    exact .kept
  | abort reason guard =>
    have hstate : r.abort reason guard = r' := hpost
    obtain ⟨-, heq⟩ | ⟨hlive, heq⟩ := abort_cases r reason guard
    · rw [heq] at hstate
      exact .turned rfl rfl (hstate ▸ .kept)
    · rw [heq] at hstate
      refine .aborted reason rfl rfl hlive (congrArg TraceRecorder.phase hstate.symm) fun hkeeps byte hslot => ?_
      by_cases hready : r.slot_ready = true
      · have hsame := (phase_slot hready).symm.trans hslot
        simp only [Option.some.injEq, Prod.mk.injEq] at hsame
        exact hkeeps reason rfl hready hsame.1
      · have hnone : r.phase.slot = none := if_neg hready
        rw [hnone] at hslot
        cases hslot
  | peek =>
    have hstate : r.peek.1 = r' := hpost
    exact .turned rfl rfl (hstate ▸ turn_peek r)
  | copySlice view offset out_cap length =>
    have hstate : r = r' := hpost
    exact .turned rfl rfl (hstate ▸ .kept)
  | acknowledge view =>
    have hstate : r.acknowledge view = r' := hpost
    by_cases haccepted : r.slot_ready = true ∧ view.record_seq = r.slot_view.record_seq
    · refine .sent rfl (if_pos haccepted) haccepted.1 ?_
      exact hstate ▸ sent_acknowledge haccepted.1 haccepted.2
    · rw [acknowledge_of_refused haccepted] at hstate
      exact .turned rfl (if_neg haccepted) (hstate ▸ .kept)
  | abandonCurrent reason guard =>
    have hstate : r.abandonCurrent reason guard = r' := hpost
    have hready : r.slot_ready = true := habandons
    refine .abandoned reason rfl rfl ?_ ?_
    · show r.phase.slot ≠ none
      rw [phase_slot hready]
      exact nofun
    · rw [← hstate]
      rfl
  | noteFragmentsSent count =>
    have hstate : r.noteFragmentsSent count = r' := hpost
    have hphase : (r.noteFragmentsSent count).phase = r.phase := rfl
    rw [hstate] at hphase
    refine .turned rfl rfl ?_
    rw [hphase]
    exact .kept
  | takeCompletion =>
    have hstate : r.takeCompletion.1 = r' := hpost
    refine .taken rfl rfl ?_
    rw [← hstate]
    unfold TraceRecorder.takeCompletion
    split
    · rename_i hnone
      have hnone' : r.phase.completion = false := (Bool.not_eq_true' _).mp hnone
      show r.phase = { r.phase with completion := false }
      rw [← hnone']
    · rfl

/-- How many `End` records were acknowledged for the capture. -/
def CaptureRecords.ends (c : CaptureRecords) : Nat := c.records.countP fun record => record.view.type == .end

structure Latest (cs : List CaptureRecords) (p : Phase) (c : CaptureRecords) : Prop where
  head : cs.head? = some c
  session : c.request.session_id = p.session_id
  capture : c.request.capture_id = p.capture_id

structure Single (cs : List CaptureRecords) (p : Phase) : Prop where
  once : ∀ c ∈ cs, c.ends ≤ 1
  live : p.Live → ∃ c, Latest cs p c ∧ c.ends = 0
  ready : p.slot ≠ none → p.Live
  exclusive : p.active = true → p.terminal = false
  ending : ∀ byte, p.slot = some (.end, byte) → p.active = false
  concluded : p.completion = true → ¬ p.Live

theorem Single.finish (h : Single cs p) (hlive : p.Live) (reason : CaptureEndReason) :
    Single cs (p.finish reason) where
  once := h.once
  live := fun _ => by
    obtain ⟨c, ⟨hhead, hsession, hcapture⟩, hends⟩ := h.live hlive
    exact ⟨c, ⟨hhead, hsession, hcapture⟩, hends⟩
  ready := fun _ => .inr rfl
  exclusive := nofun
  ending := fun _ _ => rfl
  concluded := fun hcompletion => absurd hlive (h.concluded hcompletion)

theorem Single.fill (h : Single cs p) (hlive : p.Live) (type : RecordType) (byte : Option UInt8)
    (hend : type = .end → p.terminal = true) : Single cs { p with slot := some (type, byte) } where
  once := h.once
  live := fun _ => by
    obtain ⟨c, ⟨hhead, hsession, hcapture⟩, hends⟩ := h.live hlive
    exact ⟨c, ⟨hhead, hsession, hcapture⟩, hends⟩
  ready := fun _ => hlive
  exclusive := h.exclusive
  ending := by
    rintro _ ⟨⟩
    refine Bool.eq_false_of_not_eq_true fun hactive => ?_
    exact absurd ((h.exclusive hactive).symm.trans (hend rfl)) Bool.false_ne_true
  concluded := h.concluded

theorem Single.free (h : Single cs p) : Single cs { p with slot := none } where
  once := h.once
  live := fun hlive => by
    obtain ⟨c, ⟨hhead, hsession, hcapture⟩, hends⟩ := h.live hlive
    exact ⟨c, ⟨hhead, hsession, hcapture⟩, hends⟩
  ready := fun hslot => absurd rfl hslot
  exclusive := h.exclusive
  ending := by
    intro byte hslot
    cases hslot
  concluded := h.concluded

theorem Single.turn (h : Single cs p) (hturn : Turn p p') : Single cs p' := by
  cases hturn with
  | kept => exact h
  | finished reason hactive => exact h.finish (.inl hactive) reason
  | filled type byte hactive hend => exact h.fill (.inl hactive) type byte fun hnot => absurd hnot hend
  | completed byte hactive =>
    exact (h.fill (.inl hactive) .step byte nofun).finish (.inl hactive) .complete
  | ended hterminal => exact h.fill (.inr hterminal) .end _ fun _ => hterminal

/-- A record of the latest capture that is no `End`. -/
theorem Single.addRecord (h : Single cs p) (hlive : p.Live) (hend : record.view.type ≠ .end) :
    Single (addRecord record cs) p := by
  obtain ⟨c, hlatest, hends⟩ := h.live hlive
  obtain ⟨earlier, rfl⟩ := List.head?_eq_some_iff.mp hlatest.head
  have hadded : ({ c with records := c.records ++ [record] } : CaptureRecords).ends = 0 := by
    unfold CaptureRecords.ends
    rw [List.countP_append, List.countP_singleton, beq_eq_false_iff_ne.mpr hend]
    exact hends
  refine { h with once := ?_, live := fun _ => ?_ }
  · have honce := h.once
    rw [List.forall_mem_cons] at honce
    refine List.forall_mem_cons.mpr ⟨?_, honce.2⟩
    rw [hadded]
    exact Nat.zero_le 1
  · exact ⟨_, ⟨rfl, hlatest.session, hlatest.capture⟩, hadded⟩

theorem Single.conclude (h : Single cs p) (hlive : p.Live) (hidle : p.active = false)
    (hend : record.view.type = .end) :
    Single (Hil.addRecord record cs) { p with slot := none, terminal := false, completion := true } := by
  obtain ⟨c, hlatest, hends⟩ := h.live hlive
  obtain ⟨earlier, rfl⟩ := List.head?_eq_some_iff.mp hlatest.head
  have hadded : ({ c with records := c.records ++ [record] } : CaptureRecords).ends = 1 := by
    have hbefore : c.records.countP (fun record => record.view.type == .end) = 0 := hends
    unfold CaptureRecords.ends
    rw [List.countP_append, List.countP_singleton, beq_iff_eq.mpr hend, hbefore]
    rfl
  have hnot : ¬ ({ p with slot := none, terminal := false, completion := true } : Phase).Live := by
    rintro (hactive | hterminal)
    · exact nomatch hidle.symm.trans hactive
    · cases hterminal
  have honce := h.once
  rw [List.forall_mem_cons] at honce
  exact
    { once := List.forall_mem_cons.mpr ⟨Nat.le_of_eq hadded, honce.2⟩
      live := fun hlive => absurd hlive hnot
      ready := fun hslot => absurd rfl hslot
      exclusive := fun _ => rfl
      ending := fun _ _ => hidle
      concluded := fun _ => hnot }

theorem Single.sent (h : Single cs p) (hslot : p.slot = some (record.view.type, record.bytes.head?))
    (hsent : Sent p record.view.type p') : Single (Hil.addRecord record cs) p' := by
  have hready : p.slot ≠ none := by
    rw [hslot]
    exact nofun
  have hlive := h.ready hready
  cases hsent with
  | concluded hend =>
    rw [hend] at hslot
    exact h.conclude hlive (h.ending _ hslot) hend
  | replaced next byte hend hnext =>
    exact (h.addRecord hlive hend).fill hlive next byte fun hnot => absurd hnot hnext
  | freed hend => exact (h.addRecord hlive hend).free
  | ended hend hterminal => exact (h.addRecord hlive hend).fill hlive .end _ fun _ => hterminal

theorem Single.begun (h : Single cs p) (request : CaptureRequest) (byte : Option UInt8) :
    Single ({ request, records := [] } :: cs) (begunPhase request byte) where
  once := List.forall_mem_cons.mpr ⟨Nat.zero_le 1, h.once⟩
  live := fun _ => ⟨_, ⟨rfl, rfl, rfl⟩, rfl⟩
  ready := fun _ => .inl rfl
  exclusive := fun _ => rfl
  ending := by
    rintro _ ⟨⟩
  concluded := nofun

theorem single_reset (honce : ∀ c ∈ cs, c.ends ≤ 1) : Single cs TraceRecorder.reset.phase where
  once := honce
  live := by
    rintro (hactive | hterminal)
    · cases hactive
    · cases hterminal
  ready := fun hslot => absurd rfl hslot
  exclusive := fun _ => rfl
  ending := fun _ _ => rfl
  concluded := nofun

theorem single_of_move {e : RecorderEvent} (hsingle : Single (captures h) e.pre.phase)
    (hmove : Move e) : Single (captures (e :: h)) e.post.phase := by
  cases hmove with
  | begun request byte hstarted hphase =>
    rw [captures_started hstarted, hphase]
    exact hsingle.begun request byte
  | sent hstarted hsent hready hphase =>
    rw [captures_sent hstarted hsent]
    exact hsingle.sent (phase_slot hready) hphase
  | turned hstarted hsent hphase =>
    rw [captures_kept hstarted hsent]
    exact hsingle.turn hphase
  | cleared hstarted hsent hphase =>
    rw [captures_kept hstarted hsent, hphase]
    exact single_reset hsingle.once
  | aborted reason hstarted hsent hlive hphase hreason =>
    rw [captures_kept hstarted hsent, hphase]
    exact hsingle.finish hlive reason
  | abandoned reason hstarted hsent hready hphase =>
    rw [captures_kept hstarted hsent, hphase]
    exact hsingle.free.finish (hsingle.ready hready) reason
  | taken hstarted hsent hphase =>
    rw [captures_kept hstarted hsent, hphase]
    exact
      { hsingle with
        live := fun hlive => by
          obtain ⟨c, ⟨hhead, hsession, hcapture⟩, hends⟩ := hsingle.live hlive
          exact ⟨c, ⟨hhead, hsession, hcapture⟩, hends⟩
        concluded := nofun }

/-- An acknowledged `End` of the capture gives the reason. -/
def TellsReason (c : CaptureRecords) (reason : CaptureEndReason) : Prop :=
  ∃ record ∈ c.records, record.view.type = .end ∧ record.bytes.head? = some reason.wire

/-- What `End` says is what the recorder has, on its way and afterwards. -/
structure Told (cs : List CaptureRecords) (p : Phase) : Prop where
  byte : ∀ byte, p.slot = some (.end, byte) → byte = some p.reason.wire
  told : p.completion = true → ∃ c, Latest cs p c ∧ TellsReason c p.reason

theorem Told.turn (h : Told cs p) (hsingle : Single cs p) (hturn : Turn p p') : Told cs p' := by
  have hnone (hactive : p.active = true) : p.completion ≠ true :=
    fun hcompletion => hsingle.concluded hcompletion (.inl hactive)
  cases hturn with
  | kept => exact h
  | finished reason hactive =>
    refine ⟨fun byte hslot => ?_, fun hcompletion => absurd hcompletion (hnone hactive)⟩
    exact absurd ((hsingle.ending byte hslot).symm.trans hactive) Bool.false_ne_true
  | filled type byte hactive hend =>
    refine ⟨?_, fun hcompletion => absurd hcompletion (hnone hactive)⟩
    rintro _ ⟨⟩
    exact absurd rfl hend
  | completed byte hactive =>
    refine ⟨?_, fun hcompletion => absurd hcompletion (hnone hactive)⟩
    rintro _ ⟨⟩
  | ended hterminal =>
    refine ⟨?_, fun hcompletion => absurd (.inr hterminal) (hsingle.concluded hcompletion)⟩
    rintro _ ⟨⟩
    rfl

theorem Told.sent (h : Told cs p) (hsingle : Single cs p)
    (hslot : p.slot = some (record.view.type, record.bytes.head?))
    (hsent : Sent p record.view.type p') : Told (Hil.addRecord record cs) p' := by
  have hready : p.slot ≠ none := by
    rw [hslot]
    exact nofun
  have hlive := hsingle.ready hready
  have hnone : p.completion ≠ true := fun hcompletion => hsingle.concluded hcompletion hlive
  cases hsent with
  | concluded hend =>
    obtain ⟨c, hlatest, -⟩ := hsingle.live hlive
    obtain ⟨earlier, rfl⟩ := List.head?_eq_some_iff.mp hlatest.head
    refine ⟨nofun, fun _ => ⟨_, ⟨rfl, hlatest.session, hlatest.capture⟩, record, ?_, hend, ?_⟩⟩
    · exact List.mem_append_right _ (List.mem_singleton.mpr rfl)
    · rw [hend] at hslot
      exact h.byte _ hslot
  | replaced next byte hend hnext =>
    refine ⟨?_, fun hcompletion => absurd hcompletion hnone⟩
    rintro _ ⟨⟩
    exact absurd rfl hnext
  | freed hend => exact ⟨nofun, fun hcompletion => absurd hcompletion hnone⟩
  | ended hend hterminal =>
    refine ⟨?_, fun hcompletion => absurd hcompletion hnone⟩
    rintro _ ⟨⟩
    rfl

theorem told_of_move {e : RecorderEvent} (hsingle : Single (captures h) e.pre.phase)
    (htold : Told (captures h) e.pre.phase) (hkeeps : KeepsReason e) (hmove : Move e) :
    Told (captures (e :: h)) e.post.phase := by
  cases hmove with
  | begun request byte hstarted hphase =>
    rw [captures_started hstarted, hphase]
    refine ⟨?_, nofun⟩
    rintro _ ⟨⟩
  | sent hstarted hsent hready hphase =>
    rw [captures_sent hstarted hsent]
    exact htold.sent hsingle (phase_slot hready) hphase
  | turned hstarted hsent hphase =>
    rw [captures_kept hstarted hsent]
    exact htold.turn hsingle hphase
  | cleared hstarted hsent hphase =>
    rw [captures_kept hstarted hsent, hphase]
    exact ⟨nofun, nofun⟩
  | aborted reason hstarted hsent hlive hphase hreason =>
    rw [captures_kept hstarted hsent, hphase]
    refine ⟨fun byte hslot => ?_, fun hcompletion => absurd hlive (hsingle.concluded hcompletion)⟩
    have hsame := hreason hkeeps byte hslot
    rw [htold.byte byte hslot, ← hsame]
    rfl
  | abandoned reason hstarted hsent hready hphase =>
    rw [captures_kept hstarted hsent, hphase]
    refine ⟨nofun, fun hcompletion => ?_⟩
    exact absurd (hsingle.ready hready) (hsingle.concluded hcompletion)
  | taken hstarted hsent hphase =>
    rw [captures_kept hstarted hsent, hphase]
    exact ⟨htold.byte, nofun⟩

theorem single_of_run (run : RecorderRun h r) (habandons : ∀ e ∈ h, AbandonsRecord e) :
    Single (captures h) r.phase := by
  induction run with
  | nil => exact single_reset nofun
  | step run hstep ih =>
    rw [List.forall_mem_cons] at habandons
    exact single_of_move (ih habandons.2) (move_of_call habandons.1 hstep)

theorem told_of_run (run : RecorderRun h r) (habandons : ∀ e ∈ h, AbandonsRecord e)
    (hkeeps : ∀ e ∈ h, KeepsReason e) : Told (captures h) r.phase := by
  induction run with
  | nil => exact ⟨nofun, nofun⟩
  | step run hstep ih =>
    rw [List.forall_mem_cons] at habandons hkeeps
    exact told_of_move (single_of_run run habandons.2) (ih habandons.2 hkeeps.2) hkeeps.1
      (move_of_call habandons.1 hstep)

/-- The latest capture is the one of the completion, and an acknowledged `End` gives its reason. -/
def Confirms (h : List RecorderEvent) (completion : TraceRecorder.Completion) : Prop :=
  ∃ c, (captures h).head? = some c ∧ c.request.session_id = completion.session_id ∧
    c.request.capture_id = completion.capture_id ∧ TellsReason c completion.reason

/-- **One truthful end.** No capture has a second `End`, whatever is called. While no `abort` changes the
reason of an `End` that is in the slot, the reason that `takeCompletion` gives is the one of the
acknowledged `End`. -/
theorem end_once_and_truthful (run : RecorderRun h r) (habandons : ∀ e ∈ h, AbandonsRecord e) :
    (∀ c ∈ captures h, c.ends ≤ 1) ∧ ((∀ e ∈ h, KeepsReason e) →
      ∀ completion, r.takeCompletion.2 = some completion → Confirms h completion) := by
  refine ⟨(single_of_run run habandons).once, fun hkeeps completion htaken => ?_⟩
  have htold := told_of_run run habandons hkeeps
  unfold TraceRecorder.takeCompletion at htaken
  split at htaken
  · cases htaken
  · rename_i hpending
    have hcompletion : r.phase.completion = true := by
      rw [Bool.not_eq_true', Bool.not_eq_false] at hpending
      exact hpending
    obtain ⟨c, ⟨hhead, hsession, hcapture⟩, htells⟩ := htold.told hcompletion
    obtain rfl := Option.some.inj htaken
    exact ⟨c, hhead, hsession, hcapture, htells⟩

def abortedCapture : List RecorderCall :=
  [.begin { session_id := 4, capture_id := 9, step_count := 1 } {} none, .abort .hostAborted {},
    .acknowledge { record_seq := 1 }]

theorem abandons_recordRecorder {calls : List RecorderCall} (hcalls : calls.all (·.ordinary) = true) :
    ∀ e ∈ (recordRecorder calls).2, AbandonsRecord e := by
  intro e he
  have hordinary := ordinary_recordRecorder hcalls e he
  unfold Ordinary at hordinary
  unfold AbandonsRecord
  split
  · rename_i heq
    rw [heq] at hordinary
    cases hordinary
  · trivial

theorem end_once_and_truthful_aborted :
    Confirms (recordRecorder (abortedCapture ++ [.acknowledge { record_seq := 2 }])).2
      { session_id := 4, capture_id := 9, reason := .hostAborted } := by
  have habandons := @abandons_recordRecorder (abortedCapture ++ [.acknowledge { record_seq := 2 }]) rfl
  exact (end_once_and_truthful (run_recordRecorder _) habandons).2 (by decide) _
    (by decide)

/-- `End` says that the host has aborted, the completion that the session was closed. -/
theorem late_abort_untruthful : ¬ ∀ h r, RecorderRun h r → (∀ e ∈ h, AbandonsRecord e) →
    (∀ c ∈ captures h, c.ends ≤ 1) ∧
      ∀ completion, r.takeCompletion.2 = some completion → Confirms h completion := by
  intro hclaim
  have hlate := hclaim _ _
    (run_recordRecorder (abortedCapture ++ [.abort .sessionClosed {}, .acknowledge { record_seq := 2 }]))
    (abandons_recordRecorder rfl)
  obtain ⟨c, hhead, -, -, record, hrecord, hend, hbyte⟩ := hlate.2
    { session_id := 4, capture_id := 9, reason := .sessionClosed } (by decide)
  have hvalue : ((captures (recordRecorder (abortedCapture ++
      [.abort .sessionClosed {}, .acknowledge { record_seq := 2 }])).2).head?.map fun c =>
        c.records.all fun record =>
          record.view.type != .end || record.bytes.head? != some CaptureEndReason.sessionClosed.wire) =
      some true := by
    decide
  rw [hhead] at hvalue
  have hall := List.all_eq_true.mp (Option.some.inj hvalue) record hrecord
  rw [hend, hbyte, bne_self_eq_false, bne_self_eq_false] at hall
  exact nomatch hall

end HexapodVerified.Hil
