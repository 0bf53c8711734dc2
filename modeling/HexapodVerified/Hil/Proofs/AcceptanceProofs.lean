import HexapodVerified.Hil.Proofs.CaptureRunProofs
import HexapodVerified.Host.Proofs.AssemblerProofs

/-!
# The host takes what the recorder sends

The host asks for more than the order of the records: a configuration that is the announced one, steps
with that configuration, and an `End` whose counters are those of the trace. The recorder sees to it when
its callers do their part, and then every capture with an `End` is assembled.
-/

namespace HexapodVerified.Hil

open HexapodVerified.Config Growth Transition PastTime

variable {request : CaptureRequest} {log : List Entry} {entry : Entry} {slot slot' : Option Entry}
  {r r' : TraceRecorder} {h : List RecorderEvent} {e : RecorderEvent} {call : RecorderCall}
  {s s' : Standing} {config : Option Controller.ControllerConfigSnapshot} {count : Nat}

def publishedConfig (e : RecorderEvent) : Option Controller.ControllerConfigSnapshot :=
  match e.label.1 with
  | .captureStep input _ _ =>
    if e.pre.summary.active = true ∧ e.pre.slot_ready = false ∧ e.pre.config_pending = true then
      some input.config
    else none
  | _ => none

def currentConfig : List RecorderEvent → Option Controller.ControllerConfigSnapshot
  | [] => none
  | e :: h =>
    if (started e).isSome then none
    else
      match publishedConfig e with
      | some config => some config
      | none => currentConfig h

def noted (e : RecorderEvent) : Nat :=
  match e.label.1 with
  | .noteFragmentsSent count => count.toNat
  | _ => 0

/-- How many fragments were reported since a capture was started or a record acknowledged. -/
def notedSince : List RecorderEvent → Nat
  | [] => 0
  | e :: h => if (started e).isSome ∨ (acknowledged e).isSome then 0 else notedSince h + noted e

/-- The sender reports the fragments of the record in the slot, and acknowledges it after all of them. -/
def Transported (e : RecorderEvent) (h : List RecorderEvent) : Prop :=
  match e.label.1 with
  | .noteFragmentsSent _ => e.pre.slot_ready = true
  | .acknowledge view =>
    e.pre.slot_ready = true → view.record_seq = e.pre.slot_view.record_seq →
      notedSince h = (fragmentCount e.pre.slot_view.logical_length).toNat
  | _ => True

/-- The steps of a capture have its configuration, and no `abort` comes before the configuration or calls
a capture complete that is not. -/
def Coherent (e : RecorderEvent) (h : List RecorderEvent) : Prop :=
  match e.label.1 with
  | .captureStep input command _ =>
    e.pre.summary.active = true → e.pre.slot_ready = false →
      if e.pre.config_pending = true then Fits e.pre input command ∧ KnownVersion input.config
      else
        command.goals.joints.length ≤ kNumServos → input.config.revision = e.pre.config_revision →
          ∀ snapshot ∈ currentConfig h, input.config.valid = snapshot.valid ∧
            input.config.persistent = snapshot.persistent
  | .abort reason _ =>
    (e.pre.summary.active = true → e.pre.config_pending = false) ∧
      (reason = .complete → Live e.pre →
        (e.pre.slot_ready = true ∧ e.pre.slot_view.type = .end) ∨
          e.pre.summary.recorded_steps = e.pre.summary.requested_steps)
  | _ => True

/-- What the recorder has sent agrees so far, and so will its `End`. -/
structure Sends (request : CaptureRequest) (log : List Entry) (slot : Option Entry) (count : Nat)
    (config : Option Controller.ControllerConfigSnapshot) (s : Standing) : Prop where
  agrees : Grown (Agrees request) (log ++ slot.toList)
  fragments : s.fragments = UInt32.ofNat (fragmentTotal request log + count)
  unsent : slot = none → count = 0
  pending : s.active = true → s.config_pending = true →
    ∃ guard, log ++ slot.toList = [.begin s.config_revision s.config_crc guard]
  known : s.active = true → s.config_pending = false → s.config_set = true ∧
    ∃ snapshot, .config snapshot ∈ log ++ slot.toList ∧ config = some snapshot ∧
      s.config_revision = snapshot.revision
  configured : s.terminal = true → ∃ snapshot, .config snapshot ∈ log ++ slot.toList
  complete : s.terminal = true → (∀ entry ∈ slot, entry.type ≠ .end) → s.reason = .complete →
    s.recorded_steps = request.step_count

theorem sends_begins (hbegins : Begins request slot s) (config : Option Controller.ControllerConfigSnapshot) :
    Sends request [] slot 0 config s := by
  obtain ⟨guard, rfl⟩ := hbegins.slot
  exact
    { agrees := grown_nil.concat trivial
      fragments := hbegins.fragments
      unsent := fun _ => rfl
      pending := fun _ _ => ⟨guard, rfl⟩
      known := fun _ hknown => nomatch hknown.symm.trans hbegins.config_pending
      configured := fun hterminal => nomatch hbegins.terminal.symm.trans hterminal
      complete := fun hterminal => nomatch hbegins.terminal.symm.trans hterminal }

theorem Sends.finish (h : Sends request log slot count config s) {reason : CaptureEndReason}
    (hfragments : s'.fragments = s.fragments)
    (hconfig : ∃ snapshot, .config snapshot ∈ log ++ slot.toList)
    (hcomplete : reason = .complete → (∀ entry ∈ slot, entry.type ≠ .end) →
      s'.recorded_steps = request.step_count) :
    Sends request log slot count config (s'.finish reason) where
  agrees := h.agrees
  fragments := hfragments.trans h.fragments
  unsent := h.unsent
  pending := nofun
  known := nofun
  configured := fun _ => hconfig
  complete := fun _ hopen hreason => hcomplete hreason hopen

/-- A capture that is live has its configuration unless it still waits for it. -/
theorem Sends.config_of_live (h : Sends request log slot count config s)
    (hlive : s.active = true ∨ s.terminal = true)
    (hknown : s.active = true → s.config_pending = false) :
    ∃ snapshot, .config snapshot ∈ log ++ slot.toList := by
  rcases hlive with hactive | hterminal
  · obtain ⟨-, snapshot, hmem, -⟩ := h.known hactive (hknown hactive)
    exact ⟨snapshot, hmem⟩
  · exact h.configured hterminal

theorem fragmentTotal_lt (htrace : TraceLog request log) (hbound : request.step_count ≤ kMaxCaptureSteps) :
    fragmentTotal request log < UInt32.size := by
  have hsum : fragmentTotal request log ≤ log.length * 255 := by
    rw [← List.length_map fun entry => Entry.fragments request entry, ← smul_eq_mul]
    refine List.sum_le_card_nsmul _ _ fun n hn => ?_
    obtain ⟨entry, -, rfl⟩ := List.mem_map.mp hn
    exact Nat.le_of_lt_succ (UInt8.toNat_lt _)
  have hlength := length_log_lt htrace hbound
  have hsize : UInt32.size = 4294967296 := rfl
  omega

theorem open_none : ∀ entry ∈ (none : Option Entry), entry.type ≠ .end :=
  fun entry hentry => absurd hentry (Option.not_mem_none entry)

theorem agrees_concludes (h : Sends request log none 0 config s)
    (hbound : request.step_count ≤ kMaxCaptureSteps) (htrace : TraceLog request log)
    (hconcludes : Concludes s entry) : Agrees request log entry := by
  obtain ⟨hterminal, queue_high_water, record_count, guard, rfl⟩ := hconcludes
  have hconfig := h.configured hterminal
  rw [Option.toList_none, List.append_nil] at hconfig
  refine ⟨hconfig, ?_, h.complete hterminal open_none⟩
  rw [h.fragments, Nat.add_zero, UInt32.toNat_ofNat']
  exact Nat.mod_eq_of_lt (fragmentTotal_lt htrace hbound)

theorem Sends.publish (h : Sends request log none 0 config s) (hagrees : Agrees request log entry)
    (hpending : s.active = true → s.config_pending ≠ true) :
    Sends request log (some entry) 0 config s := by
  have hgrown := h.agrees
  have hknown := h.known
  have hconfigured := h.configured
  rw [Option.toList_none, List.append_nil] at hgrown hknown hconfigured
  exact
    { agrees := hgrown.concat hagrees
      fragments := h.fragments
      unsent := fun _ => rfl
      pending := fun hactive hwaits => absurd hwaits (hpending hactive)
      known := fun hactive hknows => by
        obtain ⟨hset, snapshot, hmem, hsame⟩ := hknown hactive hknows
        exact ⟨hset, snapshot, List.mem_append_left _ hmem, hsame⟩
      configured := fun hterminal =>
        (hconfigured hterminal).imp fun _ hmem => List.mem_append_left _ hmem
      complete := fun hterminal _ => h.complete hterminal open_none }

theorem Sends.configure (h : Sends request log none 0 config r.standing)
    (htracks : Tracks request log none r) (hactive : r.summary.active = true)
    (hpending : r.config_pending = true) {input : ControllerStepInput}
    {command : Controller.RobotCommand} (hfits : Fits r input command)
    (hversion : KnownVersion input.config) :
    Sends request log (some (.config input.config)) 0 (some input.config)
      { (adopted r input.config).standing with config_pending := false } := by
  have hsame : (adopted r input.config).standing =
      { r.standing with
        config_set := true
        config_revision := (adopted r input.config).config_revision
        config_crc := (adopted r input.config).config_payload_crc16 } := by
    unfold adopted
    split
    · rename_i hset
      unfold TraceRecorder.standing
      rw [hset]
    · rfl
  have hgrown := h.agrees
  obtain ⟨guard, hlog⟩ := h.pending hactive hpending
  rw [Option.toList_none, List.append_nil] at hgrown hlog
  have hidle : r.summary.terminal_pending ≠ true := by
    intro hterminal
    exact absurd ((htracks.active hactive).1.symm.trans hterminal) Bool.false_ne_true
  rw [hsame]
  refine
    { agrees := hgrown.concat ⟨hversion, guard, ?_⟩
      fragments := h.fragments
      unsent := fun _ => rfl
      pending := nofun
      known := fun _ _ => ⟨rfl, input.config, ?_, rfl, (adopted_revision hfits.revision).symm⟩
      configured := fun hterminal => absurd hterminal hidle
      complete := fun hterminal => absurd hterminal hidle }
  · rw [hlog, hfits.revision, hfits.crc]
    rfl
  · exact List.mem_append_right _ (List.mem_singleton.mpr rfl)

theorem Sends.record (h : Sends request log none 0 config r.standing)
    (htracks : Tracks request log none r) (hactive : r.summary.active = true)
    (hknown : r.config_pending = false) {input : ControllerStepInput}
    (hrevision : input.config.revision = (adopted r input.config).config_revision)
    (hflags : input.config.revision = r.config_revision → ∀ snapshot ∈ config,
      input.config.valid = snapshot.valid ∧ input.config.persistent = snapshot.persistent)
    (command : Controller.RobotCommand) (n : UInt32) :
    Sends request log (some (.step n input command)) 0 config
      { (adopted r input.config).standing with
        recorded_steps := r.summary.recorded_steps + 1 } := by
  obtain ⟨hset, snapshot, hmem, hconfig, hsame⟩ := h.known hactive hknown
  have hadopted : adopted r input.config = r := if_pos hset
  rw [hadopted] at hrevision ⊢
  have hgrown := h.agrees
  rw [Option.toList_none, List.append_nil] at hgrown hmem
  obtain ⟨hvalid, hpersistent⟩ := hflags hrevision snapshot hconfig
  have hidle : r.summary.terminal_pending ≠ true := by
    intro hterminal
    exact absurd ((htracks.active hactive).1.symm.trans hterminal) Bool.false_ne_true
  exact
    { agrees := hgrown.concat ⟨snapshot, hmem, hrevision.trans hsame, hvalid, hpersistent⟩
      fragments := h.fragments
      unsent := fun _ => rfl
      pending := fun _ hpending => nomatch hknown.symm.trans hpending
      known := fun _ _ => ⟨hset, snapshot, List.mem_append_left _ hmem, hconfig, hsame⟩
      configured := fun hterminal => absurd hterminal hidle
      complete := fun hterminal => absurd hterminal hidle }

theorem recorded_all (htracks : Tracks request log none r) (hactive : r.summary.active = true)
    (hlast : r.summary.recorded_steps + 1 ≥ r.summary.requested_steps) :
    r.summary.recorded_steps + 1 = request.step_count := by
  have hroom := htracks.room hactive
  have hcount := htracks.recorded
  have hlast' := UInt8.le_iff_toNat_le.mp hlast
  rw [htracks.requested, UInt8.toNat_add] at hlast'
  rw [← UInt8.toNat_inj, UInt8.toNat_add]
  have hone : (1 : UInt8).toNat = 1 := rfl
  omega

theorem sends_of_outcome (hsends : Sends request log slot count config r.standing)
    (htracks : Tracks request log slot r) {input : ControllerStepInput}
    {command : Controller.RobotCommand} (houtcome : StepOutcome slot r input command slot' s)
    (hpublish : r.summary.active = true → r.slot_ready = false → r.config_pending = true →
      Fits r input command ∧ KnownVersion input.config)
    (hflags : r.summary.active = true → r.slot_ready = false → r.config_pending = false →
      command.goals.joints.length ≤ kNumServos → input.config.revision = r.config_revision →
        ∀ snapshot ∈ config, input.config.valid = snapshot.valid ∧
          input.config.persistent = snapshot.persistent) :
    Sends request log slot' count
      (if r.summary.active = true ∧ r.slot_ready = false ∧ r.config_pending = true then
        some input.config else config) s := by
  cases houtcome with
  | ignored hskip =>
    rw [if_neg]
    · exact hsends
    · rintro ⟨hactive, hfree, -⟩
      exact absurd (hfree.symm.trans (hskip hactive)) Bool.false_ne_true
  | failed s' hactive hfragments hunfit =>
    have hknown : r.config_pending = false := by
      refine Bool.eq_false_of_not_eq_true fun hpending => ?_
      obtain ⟨hfree, hnot⟩ := hunfit hpending
      exact hnot (hpublish hactive hfree hpending).1
    obtain ⟨-, snapshot, hmem, -⟩ := hsends.known hactive hknown
    rw [if_neg fun hcond => absurd (hknown.symm.trans hcond.2.2) Bool.false_ne_true]
    exact hsends.finish hfragments ⟨snapshot, hmem⟩ fun hreason => by cases hreason
  | configured hactive hslot hpending =>
    subst hslot
    have hcount := hsends.unsent rfl
    subst hcount
    have hfree : r.slot_ready = false := htracks.ready
    obtain ⟨hfits, hversion⟩ := hpublish hactive hfree hpending
    rw [if_pos ⟨hactive, hfree, hpending⟩]
    exact hsends.configure htracks hactive hpending hfits hversion
  | recorded hactive hslot hknown hgoals hrevision n =>
    subst hslot
    have hcount := hsends.unsent rfl
    subst hcount
    rw [if_neg fun hcond => absurd (hknown.symm.trans hcond.2.2) Bool.false_ne_true]
    exact hsends.record htracks hactive hknown hrevision (hflags hactive htracks.ready hknown hgoals)
      command n
  | completed hactive hslot hknown hgoals hrevision hlast n =>
    subst hslot
    have hcount := hsends.unsent rfl
    subst hcount
    rw [if_neg fun hcond => absurd (hknown.symm.trans hcond.2.2) Bool.false_ne_true]
    have hrecord := hsends.record htracks hactive hknown hrevision
      (hflags hactive htracks.ready hknown hgoals) command n
    obtain ⟨-, snapshot, hmem, -⟩ := hsends.known hactive hknown
    rw [Option.toList_none, List.append_nil] at hmem
    refine hrecord.finish rfl ⟨snapshot, List.mem_append_left _ hmem⟩ fun _ _ => ?_
    exact recorded_all htracks hactive hlast

theorem sends_of_shift (hsends : Sends request log slot (notedSince h) (currentConfig h) e.pre.standing)
    (htracks : Tracks request log slot e.pre) (hstarted : started e = none)
    (hsent : acknowledged e = none) (hshift : Shift slot e.pre e.label.1 slot' e.post.standing)
    (htransported : Transported e h) (hcoherent : Coherent e h) :
    Sends request log slot' (notedSince (e :: h)) (currentConfig (e :: h)) e.post.standing := by
  have hnoted : notedSince (e :: h) = notedSince h + noted e := by
    show (if _ then _ else _) = _
    rw [hstarted, hsent]
    rfl
  have hconfig : currentConfig (e :: h) = match publishedConfig e with
      | some config => some config
      | none => currentConfig h := by
    show (if _ then _ else _) = _
    rw [hstarted]
    rfl
  rw [hnoted, hconfig]
  obtain ⟨r, ⟨call, answer⟩, r'⟩ := e
  dsimp only at hsends htracks hshift ⊢
  generalize r'.standing = s at hshift ⊢
  cases hshift with
  | same call hquiet =>
    cases call with
    | captureStep input command guard => cases hquiet
    | noteFragmentsSent count => cases hquiet
    | _ => exact hsends
  | stepped input command guard slot' s houtcome =>
    have hpublish := sends_of_outcome hsends htracks houtcome
      (fun hactive hfree hpending => by
        have hfits := hcoherent hactive hfree
        rwa [if_pos hpending] at hfits)
      (fun hactive hfree hknown => by
        have hflags := hcoherent hactive hfree
        rwa [if_neg (ne_true_of_eq_false hknown)] at hflags)
    unfold publishedConfig
    dsimp only
    by_cases hcond : r.summary.active = true ∧ r.slot_ready = false ∧ r.config_pending = true
    · rw [if_pos hcond] at hpublish ⊢
      exact hpublish
    · rw [if_neg hcond] at hpublish ⊢
      exact hpublish
  | aborted reason guard hlive =>
    obtain ⟨hknown, hcomplete⟩ := hcoherent
    refine hsends.finish rfl (hsends.config_of_live hlive hknown) fun hreason hopen => ?_
    rcases hcomplete hreason hlive with ⟨hready, hend⟩ | hall
    · have hready' : slot.isSome = true := htracks.ready.symm.trans hready
      obtain ⟨entry, rfl⟩ := Option.isSome_iff_exists.mp hready'
      rw [(htracks.holds entry rfl).view] at hend
      exact absurd hend (hopen entry rfl)
    · exact hall.trans htracks.requested
  | concluded entry hslot hentry =>
    subst hslot
    have hcount : notedSince h = 0 := hsends.unsent rfl
    have htrace := htracks.trace
    rw [Option.toList_none, List.append_nil] at htrace
    rw [hcount] at hsends ⊢
    refine hsends.publish (agrees_concludes hsends htracks.bound htrace hentry) fun hactive => ?_
    exact absurd ((htracks.active hactive).1.symm.trans hentry.1) Bool.false_ne_true
  | noted count =>
    have hready : r.slot_ready = true := htransported
    have hslot : slot.isSome = true := htracks.ready.symm.trans hready
    exact
      { agrees := hsends.agrees
        fragments := by
          have hbefore : r.emitted_fragment_count =
              UInt32.ofNat (fragmentTotal request log + notedSince h) := hsends.fragments
          have hcount : count.toUInt32 = UInt32.ofNat count.toNat := by simp
          show r.emitted_fragment_count + count.toUInt32 = UInt32.ofNat (_ + (_ + count.toNat))
          rw [hbefore, hcount, ← UInt32.ofNat_add, Nat.add_assoc]
        unsent := by
          rintro rfl
          cases hslot
        pending := hsends.pending
        known := hsends.known
        configured := hsends.configured
        complete := hsends.complete }

theorem sends_of_sent (hsends : Sends request log (some entry) (notedSince h) (currentConfig h) e.pre.standing)
    (htracks : Tracks request log (some entry) e.pre) (hstarted : started e = none)
    (hsent : acknowledged e = some (entry.record request log.length))
    (htracks' : Tracks request (log ++ [entry]) slot' e.post)
    (hstanding : e.post.standing =
      if entry.type = .end then { e.pre.standing with terminal := false } else e.pre.standing)
    (hnext : ∀ next ∈ slot', (next.type = .marker ∨ next.type = .outputBlocked) ∨
      Concludes e.pre.standing next)
    (htransported : Transported e h) :
    Sends request (log ++ [entry]) slot' (notedSince (e :: h)) (currentConfig (e :: h))
      e.post.standing := by
  have hnoted : notedSince (e :: h) = 0 := by
    show (if _ then _ else _) = _
    rw [hsent]
    exact if_pos (.inr rfl)
  have hcall : publishedConfig e = none ∧ notedSince h = entry.fragments request := by
    obtain ⟨r, ⟨call, answer⟩, r'⟩ := e
    cases call with
    | acknowledge view =>
      refine ⟨rfl, ?_⟩
      have haccepted : r.slot_ready = true ∧ view.record_seq = r.slot_view.record_seq := by
        by_contra hrefused
        have hnone : (if r.slot_ready = true ∧ view.record_seq = r.slot_view.record_seq then
          some r.currentRecord else none) = some (entry.record request log.length) := hsent
        rw [if_neg hrefused] at hnone
        cases hnone
      have hcount := htransported haccepted.1 haccepted.2
      rw [hcount, (htracks.holds entry rfl).view]
      rfl
    | _ => cases hsent
  have hconfig : currentConfig (e :: h) = currentConfig h := by
    show (if _ then _ else _) = _
    rw [hstarted, hcall.1]
    rfl
  rw [hnoted, hconfig]
  -- the record has left the slot; whether one follows it is seen below
  have hlog : log ++ (some entry).toList = log ++ [entry] ++ (none : Option Entry).toList := by simp
  have hfreed : Sends request (log ++ [entry]) none 0 (currentConfig h) e.post.standing := by
    have hagrees := hsends.agrees
    have hpending := hsends.pending
    have hknown := hsends.known
    have hconfigured := hsends.configured
    have hfragments := hsends.fragments
    rw [hlog] at hagrees hpending hknown hconfigured
    rw [hcall.2, ← Host.fragmentTotal_concat] at hfragments
    rw [hstanding]
    split
    · exact
        { agrees := hagrees
          fragments := hfragments
          unsent := fun _ => rfl
          pending := hpending
          known := hknown
          configured := nofun
          complete := nofun }
    · rename_i hend
      refine
        { agrees := hagrees
          fragments := hfragments
          unsent := fun _ => rfl
          pending := hpending
          known := hknown
          configured := hconfigured
          complete := fun hterminal _ => hsends.complete hterminal ?_ }
      rintro entry ⟨⟩
      exact hend
  cases slot' with
  | none => exact hfreed
  | some next =>
    have htrace := htracks'.trace
    rw [Option.toList_some] at htrace
    obtain ⟨htrace, hfollows⟩ := grown_concat.mp htrace
    have hagrees : Agrees request (log ++ [entry]) next := by
      rcases hnext next rfl with (hmarker | hblocked) | hconcludes
      · cases next with
        | marker => trivial
        | _ => cases hmarker
      · cases next with
        | outputBlocked => trivial
        | _ => cases hblocked
      · have hend : entry.type ≠ .end := fun hend =>
          not_ended_of_follows hfollows (ended_concat.mpr hend)
        rw [if_neg hend] at hstanding
        exact agrees_concludes hfreed htracks'.bound htrace (hstanding ▸ hconcludes)
    exact hfreed.publish hagrees fun hactive hpending => by
      obtain ⟨revision, crc, guard, hfirst⟩ := htracks'.config_pending hactive hpending
      have hlength := congrArg List.length hfirst
      simp at hlength

def Trusted (c : CaptureRecords) : Prop :=
  ∃ log, c.records = recordsOf c.request log ∧ Grown (Taken c.request) log ∧ Host.Proper c.request

/-- The latest capture agrees so far, and all before it are trusted. -/
def Sending (h : List RecorderEvent) (request : CaptureRequest) (log : List Entry)
    (slot : Option Entry) (r : TraceRecorder) : Prop :=
  ∃ done, captures h = { request, records := recordsOf request log } :: done ∧
    (∀ c ∈ done, Trusted c) ∧ Tracks request log slot r ∧ Host.Proper request ∧
    Sends request log slot (notedSince h) (currentConfig h) r.standing

theorem trusted_of_sends (htracks : Tracks request log slot r) (hproper : Host.Proper request)
    (hsends : Sends request log slot count config s) :
    Trusted { request, records := recordsOf request log } := by
  refine ⟨log, rfl, fun earlier entry later heq => ⟨?_, ?_⟩, hproper⟩
  · exact htracks.trace.of_append earlier entry later heq
  · exact hsends.agrees.of_append earlier entry later heq

theorem proper_of_begins (hbegins : Begins request slot s) (htracks : Tracks request log slot r) :
    Host.Proper request :=
  ⟨hbegins.session_id_ne, hbegins.capture_id_ne, hbegins.pos, htracks.bound⟩

theorem sends_started (hstarted : started e = some request) (hbegins : Begins request slot e.post.standing) :
    Sends request [] slot (notedSince (e :: h)) (currentConfig (e :: h)) e.post.standing := by
  have hnoted : notedSince (e :: h) = 0 := by
    show (if _ then _ else _) = _
    rw [hstarted]
    exact if_pos (.inl rfl)
  rw [hnoted]
  exact sends_begins hbegins _

/-- The run has recorded nothing yet, or what it has recorded is taken. -/
def Answered (h : List RecorderEvent) (r : TraceRecorder) : Prop :=
  captures h = [] ∧ Idle r ∨ ∃ request log slot, Sending h request log slot r

theorem answered_call {answer : RecorderAnswer} (hanswered : Answered h r)
    (hordinary : Ordinary ⟨r, (call, answer), r'⟩)
    (htransported : Transported ⟨r, (call, answer), r'⟩ h)
    (hcoherent : Coherent ⟨r, (call, answer), r'⟩ h) (hstep : r.call call = (r', answer)) :
    Answered (⟨r, (call, answer), r'⟩ :: h) r' := by
  obtain ⟨hnone, hidle⟩ | ⟨request, log, slot, done, hcaptures, hdone, htracks, hproper, hsends⟩ :=
    hanswered
  · obtain ⟨next, slot, hstarted, htracks, hbegins⟩ | ⟨hstarted, hsent, hidle⟩ :=
      idle_of_call hidle hordinary hstep
    · refine .inr ⟨next, [], slot, [], ?_, nofun, htracks, proper_of_begins hbegins htracks,
        sends_started hstarted hbegins⟩
      rw [captures_started hstarted, hnone]
      rfl
    · refine .inl ⟨?_, hidle⟩
      rw [captures_kept hstarted hsent, hnone]
  · cases advance_of_call htracks hordinary hstep with
    | begun next hstarted hidle slot' hnext hbegins =>
      refine .inr ⟨next, [], slot', captures h, captures_started hstarted, ?_, hnext,
        proper_of_begins hbegins hnext, sends_started hstarted hbegins⟩
      rw [hcaptures]
      exact List.forall_mem_cons.mpr ⟨trusted_of_sends htracks hproper hsends, hdone⟩
    | sent entry hslot hstarted hsent slot' hnext hstanding hconcludes =>
      subst hslot
      refine .inr ⟨request, log ++ [entry], slot', done, ?_, hdone, hnext, hproper, ?_⟩
      · rw [captures_sent hstarted hsent, hcaptures, recordsOf_concat]
        rfl
      · exact sends_of_sent hsends htracks hstarted hsent hnext hstanding hconcludes htransported
    | kept hstarted hsent slot' hnext hsame hshift =>
      refine .inr ⟨request, log, slot', done, ?_, hdone, hnext, hproper, ?_⟩
      · rw [captures_kept hstarted hsent, hcaptures]
      · exact sends_of_shift hsends htracks hstarted hsent hshift htransported hcoherent

theorem answered_of_run (run : RecorderRun h r) (hordinary : ∀ e ∈ h, Ordinary e)
    (htransported : Historically Transported h) (hcoherent : Historically Coherent h) :
    Answered h r := by
  induction run with
  | nil =>
    exact .inl ⟨rfl, idle_initial⟩
  | step run hstep ih =>
    have hbefore := ih (fun e he => hordinary e (List.mem_cons_of_mem _ he)) htransported.2 hcoherent.2
    exact answered_call hbefore (hordinary _ (List.mem_cons_self ..)) htransported.1 hcoherent.1 hstep

theorem Trusted.assembles {c : CaptureRecords} (htrusted : Trusted c) (hend : HasEnd c)
    {expected : Option Nat} (hexpected : ∀ session ∈ expected, session = c.request.session_id.toNat) :
    ∃ trace, HostAssembles expected c.records trace ∧ trace.records.length = c.records.length := by
  obtain ⟨log, hrecords, hlog, hproper⟩ := htrusted
  obtain ⟨last, hlast, htype⟩ := hend
  have hended : Ended log := by
    rcases List.eq_nil_or_concat log with rfl | ⟨earlier, entry, rfl⟩
    · rw [hrecords] at hlast
      cases hlast
    · rw [List.concat_eq_append] at hrecords ⊢
      rw [hrecords, recordsOf_concat, List.getLast?_concat] at hlast
      obtain rfl := Option.some.inj hlast
      exact ended_concat.mpr htype
  obtain ⟨trace, hassembles, hlength⟩ := Host.hostAssembles_log hproper hlog hended hexpected
  refine ⟨trace, hrecords ▸ hassembles, ?_⟩
  rw [hlength, hrecords, length_recordsOf]

/-- **The host takes the captures of a recorder whose callers do their part.** -/
theorem captures_assembled (run : RecorderRun h r) (hordinary : ∀ e ∈ h, Ordinary e)
    (htransported : Historically Transported h) (hcoherent : Historically Coherent h) :
    ∀ c ∈ captures h, HasEnd c → ∀ expected : Option Nat,
      (∀ session ∈ expected, session = c.request.session_id.toNat) →
        ∃ trace, HostAssembles expected c.records trace ∧ trace.records.length = c.records.length := by
  obtain ⟨hnone, -⟩ | ⟨request, log, slot, done, hcaptures, hdone, htracks, hproper, hsends⟩ :=
    answered_of_run run hordinary htransported hcoherent
  · rw [hnone]
    exact nofun
  · rw [hcaptures]
    refine List.forall_mem_cons.mpr ⟨fun hend expected hexpected => ?_, fun c hc hend expected hexpected =>
      (hdone c hc).assembles hend hexpected⟩
    exact (trusted_of_sends htracks hproper hsends).assembles hend hexpected

def diagnosticCapture : List RecorderCall :=
  [.begin { session_id := 4, capture_id := 9, step_count := 1 } {} (some {}), .noteFragmentsSent 1,
    .acknowledge { record_seq := 1 },
    .captureStep { checkedInput true 0 with config := {} } {} {}, .noteFragmentsSent 1,
    .acknowledge { record_seq := 2 }, .abort .hostAborted {}, .peek, .noteFragmentsSent 1,
    .acknowledge { record_seq := 3 }]

theorem transported_diagnostic : Historically Transported (recordRecorder diagnosticCapture).2 := by
  refine ⟨fun _ _ => ?_, rfl, trivial, trivial, fun _ _ => ?_, rfl, trivial, fun _ _ => ?_, rfl, trivial,
    trivial⟩
  · decide
  · decide
  · decide

theorem coherent_diagnostic : Historically Coherent (recordRecorder diagnosticCapture).2 := by
  refine ⟨trivial, trivial, trivial, ⟨fun _ => ?_, nofun⟩, trivial, trivial, fun _ _ => ?_, trivial, trivial,
    trivial, trivial⟩
  · decide
  · refine ⟨⟨?_, ?_, ?_⟩, nofun⟩
    · decide
    · decide
    · decide

theorem captures_assembled_diagnostic : ∃ c ∈ captures (recordRecorder diagnosticCapture).2, HasEnd c ∧
    ∃ trace, HostAssembles (some 4) c.records trace ∧ trace.records.length = c.records.length := by
  have hend : ((captures (recordRecorder diagnosticCapture).2).head?.bind fun c =>
      c.records.getLast?.map fun record => record.view.type) = some .end := by
    decide
  obtain ⟨c, hc, hlast⟩ := Option.bind_eq_some_iff.mp hend
  obtain ⟨last, hlast, htype⟩ := Option.map_eq_some_iff.mp hlast
  have hmem := List.mem_of_mem_head? hc
  refine ⟨c, hmem, ⟨last, hlast, htype⟩, ?_⟩
  refine captures_assembled (run_recordRecorder _) (ordinary_recordRecorder rfl) transported_diagnostic
    coherent_diagnostic c hmem ⟨last, hlast, htype⟩ (some 4) ?_
  rintro session ⟨⟩
  have hsession : ((captures (recordRecorder diagnosticCapture).2).head?.map fun c =>
      c.request.session_id.toNat) = some 4 := by
    decide
  rw [hc] at hsession
  exact (Option.some.inj hsession).symm

def abortedEarly : List RecorderCall :=
  [.begin { session_id := 4, capture_id := 9, step_count := 1 } {} (some {}), .noteFragmentsSent 1,
    .acknowledge { record_seq := 1 }, .abort .hostAborted {}, .peek, .noteFragmentsSent 1,
    .acknowledge { record_seq := 2 }]

/-- The `End` of a capture aborted early comes where the host waits for the configuration. -/
theorem aborted_early_refused : ¬ ∀ h r, RecorderRun h r → (∀ e ∈ h, Ordinary e) →
    Historically Transported h → ∀ c ∈ captures h, HasEnd c →
      ∃ trace, HostAssembles none c.records trace := by
  intro hclaim
  have htransported : Historically Transported (recordRecorder abortedEarly).2 := by
    refine ⟨fun _ _ => ?_, rfl, trivial, trivial, fun _ _ => ?_, rfl, trivial, trivial⟩
    · decide
    · decide
  have hend : ((captures (recordRecorder abortedEarly).2).head?.bind fun c =>
      c.records.getLast?.map fun record => record.view.type) = some .end := by
    decide
  have hrefused : ((captures (recordRecorder abortedEarly).2).head?.bind fun c =>
      (hostEvents c.records).map fun events =>
        (Host.TraceAssembler.acceptEvents {} events).isOk) = some false := by
    decide +kernel
  obtain ⟨c, hc, hlast⟩ := Option.bind_eq_some_iff.mp hend
  obtain ⟨last, hlast, htype⟩ := Option.map_eq_some_iff.mp hlast
  obtain ⟨trace, events, a, a', hevents, hnew, haccept, -⟩ := hclaim _ _ (run_recordRecorder abortedEarly)
    (ordinary_recordRecorder rfl) htransported c (List.mem_of_mem_head? hc) ⟨last, hlast, htype⟩
  obtain rfl := Except.ok.inj hnew
  rw [hc, Option.bind_some, hevents, Option.map_some, haccept] at hrefused
  cases hrefused

end HexapodVerified.Hil
