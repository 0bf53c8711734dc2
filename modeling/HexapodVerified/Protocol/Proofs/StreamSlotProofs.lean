import HexapodVerified.Lib.Tables
import HexapodVerified.Protocol.Telemetry
import Mathlib.Data.List.Chain

/-!
# The slots of a stream

From the call that primes it on, the time of a stream is divided into slots of its interval. The phase is
the start of the slot of the latest call, and `emitted` and `dropped` together count the slots up to it: a
call in a new slot lets a frame out and counts the slots in between as dropped.
-/

namespace HexapodVerified.Protocol

open Transition Tables WrappedTime Slots SubscriptionManager

variable {tel : SubscriptionManager} {s r : Fin kNumStreams} {st base : StreamState}
  {h : List StreamEvent} {e : StreamEvent} {first last now len : Nat}

/-- The frames let out and dropped since `base`. -/
def tally (base st : StreamState) : UInt32 :=
  (st.emitted - base.emitted) + (st.dropped - base.dropped)

/-- The stream is primed at `first`, and its latest call was at `last`. -/
structure Phased (base st : StreamState) (first len last : Nat) : Prop where
  enabled : st.enabled = true
  primed : st.primed = true
  interval : st.interval_ms.toNat = len
  positive : 0 < len
  reached : first ≤ last
  phase : st.last_emit_ms = UInt32.ofNat (start first len last)
  counted : tally base st = UInt32.ofNat (slot first len last + 1)

theorem phased_primes (henabled : st.enabled = true) (hinterval : st.interval_ms ≠ 0)
    (hprimed : st.primed = false) (now : Nat) :
    Phased st (emitStep st (UInt32.ofNat now)).1 now st.interval_ms.toNat now ∧
      (emitStep st (UInt32.ofNat now)).2 = true := by
  have hready : ¬ (!st.enabled ∨ st.interval_ms = 0) := by
    rw [henabled]
    rintro (hoff | hzero)
    · cases hoff
    · exact hinterval hzero
  have hpos : 0 < st.interval_ms.toNat := Nat.pos_of_ne_zero fun hzero =>
    hinterval (UInt16.toNat_inj.mp hzero)
  unfold emitStep
  rw [if_neg hready, hprimed]
  refine ⟨⟨henabled, rfl, rfl, hpos, le_refl _, ?_, ?_⟩, rfl⟩
  · rw [start_first]
    rfl
  · rw [slot_first]
    show (st.emitted + 1 - st.emitted) + (st.dropped - st.dropped) = 1
    grind

/-- Counting one slot as let out and the others as dropped counts all of them. -/
theorem tally_advance (base : StreamState) {st t : StreamState} {slots : UInt32}
    (hslots : slots ≠ 0) (hemitted : t.emitted = st.emitted + 1)
    (hdropped : t.dropped = if slots > 1 then st.dropped + (slots - 1) else st.dropped) :
    tally base t = tally base st + slots := by
  have hall : t.dropped = st.dropped + (slots - 1) := by
    by_cases hmissed : slots > 1
    · rw [hdropped, if_pos hmissed]
    · have hone : slots = 1 := by
        rw [gt_iff_lt, UInt32.lt_iff_toNat_lt] at hmissed
        have hne : slots.toNat ≠ 0 := fun hzero => hslots (UInt32.toNat_inj.mp hzero)
        have h1 : (1 : UInt32).toNat = 1 := rfl
        exact UInt32.toNat_inj.mp (by omega)
      rw [hdropped, if_neg hmissed, hone, UInt32.sub_self, UInt32.add_zero]
  unfold tally
  rw [hemitted, hall]
  grind

/-- A call in the slot of the latest one does nothing, and a call in a later slot lets a frame out and moves
the phase to the start of its slot. -/
theorem Phased.call (hphased : Phased base st first len last) (hle : last ≤ now)
    (hrange : now < start first len last + 2 ^ 32) :
    Phased base (emitStep st (UInt32.ofNat now)).1 first len now ∧
      ((emitStep st (UInt32.ofNat now)).2 = true ↔ slot first len now ≠ slot first len last) := by
  obtain ⟨henabled, hprimed, hinterval, hpos, hfirst, hphase, hcounted⟩ := hphased
  have hready : ¬ (!st.enabled ∨ st.interval_ms = 0) := by
    rw [henabled]
    rintro (hoff | hzero)
    · cases hoff
    · rw [hzero] at hinterval
      exact absurd hinterval (Nat.ne_of_lt hpos)
  have hstart : start first len last ≤ last := start_le hfirst
  have helapsed : (UInt32.ofNat now - st.last_emit_ms).toNat = now - start first len last := by
    rw [hphase]
    exact elapsed_exact (hstart.trans hle) hrange
  have hlen : st.interval_ms.toUInt32.toNat = len := hinterval
  have hsame := slot_eq_iff hpos hfirst hle
  have hslots := slot_eq_add hpos hfirst hle
  unfold emitStep
  rw [if_neg hready, hprimed]
  by_cases hsoon : UInt32.ofNat now - st.last_emit_ms < st.interval_ms.toUInt32
  · rw [if_pos hsoon]
    rw [UInt32.lt_iff_toNat_lt, helapsed, hlen] at hsoon
    have heq := hsame.mpr hsoon
    have hstarts : start first len now = start first len last := by
      unfold start
      rw [heq]
    refine ⟨⟨henabled, hprimed, hinterval, hpos, hfirst.trans hle, ?_, ?_⟩, ?_⟩
    · rw [hstarts]
      exact hphase
    · rw [heq]
      exact hcounted
    · exact iff_of_false Bool.false_ne_true fun hne => hne heq
  · rw [if_neg hsoon]
    rw [UInt32.lt_iff_toNat_lt, helapsed, hlen] at hsoon
    have hnew : slot first len now ≠ slot first len last := fun heq => hsoon (hsame.mp heq)
    have hcount : (UInt32.ofNat now - st.last_emit_ms) / st.interval_ms.toUInt32 =
        UInt32.ofNat ((now - start first len last) / len) := by
      apply UInt32.toNat_inj.mp
      rw [UInt32.toNat_div, helapsed, hlen, UInt32.toNat_ofNat']
      have hsmall := Nat.div_le_self (now - start first len last) len
      exact (Nat.mod_eq_of_lt (by omega)).symm
    have hiv : st.interval_ms.toUInt32 = UInt32.ofNat len := by
      rw [← hlen, UInt32.ofNat_toNat]
    refine ⟨⟨henabled, rfl, hinterval, hpos, hfirst.trans hle, ?_, ?_⟩, iff_of_true rfl hnew⟩
    · show st.last_emit_ms + (UInt32.ofNat now - st.last_emit_ms) / st.interval_ms.toUInt32 *
        st.interval_ms.toUInt32 = _
      rw [hcount, hiv, hphase, start_eq_add hpos hfirst hle, UInt32.ofNat_add, UInt32.ofNat_mul]
    · rw [hcount]
      have hne : UInt32.ofNat ((now - start first len last) / len) ≠ 0 := by
        rw [← hcount]
        intro hzero
        have hzero := congrArg UInt32.toNat hzero
        rw [UInt32.toNat_div, helapsed, hlen] at hzero
        exact hnew (hslots.trans (by rw [hzero]; rfl))
      rw [tally_advance base hne rfl rfl, hcounted, hslots, ← UInt32.ofNat_add, Nat.add_right_comm]

theorem setStream_get (tel : SubscriptionManager) (r s : Fin kNumStreams) (st : StreamState) :
    (tel.setStream r st).streams.get s = if r = s then st else tel.streams.get s :=
  get_set tel.streams r s st

def Unmoved (s : Fin kNumStreams) (tel tel' : SubscriptionManager) : Prop :=
  tel'.streams.get s = tel.streams.get s ∨ (tel'.streams.get s).primed = false

theorem unmoved_setStream (hprimed : st.primed = false) (r : Fin kNumStreams) :
    Unmoved s tel (tel.setStream r st) := by
  unfold Unmoved
  rw [setStream_get]
  by_cases heq : r = s
  · rw [if_pos heq]
    exact .inr hprimed
  · rw [if_neg heq]
    exact .inl rfl

theorem unmoved_handle (tel : SubscriptionManager) (msg_id : UInt8) (req : List UInt8)
    (out_cap : Nat) (s : Fin kNumStreams) : Unmoved s tel (tel.handle msg_id req out_cap).1 := by
  unfold handle
  split_ifs
  · exact .inl rfl
  · show Unmoved s tel (tel.handleRate msg_id req out_cap).1
    unfold handleRate
    dsimp only
    split_ifs
    · exact .inl rfl
    · exact unmoved_setStream rfl _
    · exact unmoved_setStream rfl _
    · exact .inl rfl
  · show Unmoved s tel (tel.handleUnsubscribe req out_cap).1
    unfold handleUnsubscribe
    dsimp only
    split_ifs
    · exact .inl rfl
    · exact unmoved_setStream rfl _
    · exact .inl rfl
  · exact .inl rfl
  · exact .inl rfl

theorem unmoved_of_other (hstep : WithOutput SubscriptionManager.step e.pre e.label e.post)
    (hother : callTime s e = none) : Unmoved s e.pre e.post := by
  obtain ⟨pre, ⟨call, emits⟩, post⟩ := e
  have hpost : post = (pre.step call).1 := (congrArg Prod.fst hstep).symm
  rw [hpost]
  cases call with
  | subscribe r rate_hz => exact unmoved_setStream rfl r
  | setRate r rate_hz => exact unmoved_setStream rfl r
  | unsubscribe r => exact unmoved_setStream rfl r
  | handle msg_id req out_cap => exact unmoved_handle pre msg_id req out_cap s
  | noteTxBacklog => exact .inl rfl
  | reset => exact .inr (by simp [SubscriptionManager.step, SubscriptionManager.reset, Vector.get])
  | shouldEmit r now =>
    have hne : r ≠ s := by
      rintro rfl
      have hcalled : callTime r ⟨pre, (.shouldEmit r now, emits), post⟩ = some now := if_pos rfl
      cases hcalled.symm.trans hother
    exact .inl ((setStream_get _ r s _).trans (if_neg hne))

theorem emitStep_of_call (hstep : WithOutput SubscriptionManager.step e.pre e.label e.post)
    (hcall : callTime s e = some now) :
    e.post.streams.get s = (emitStep (e.pre.streams.get s) (UInt32.ofNat now)).1 ∧
      e.label.2 = (emitStep (e.pre.streams.get s) (UInt32.ofNat now)).2 := by
  obtain ⟨pre, ⟨call, emits⟩, post⟩ := e
  cases call with
  | shouldEmit r t =>
    unfold callTime at hcall
    simp only [Option.ite_none_right_eq_some, Option.some.injEq] at hcall
    obtain ⟨rfl, rfl⟩ := hcall
    have hpost : post = (pre.shouldEmit r (UInt32.ofNat t)).1 := (congrArg Prod.fst hstep).symm
    have hemits : emits = (pre.shouldEmit r (UInt32.ofNat t)).2 := (congrArg Prod.snd hstep).symm
    rw [hpost, hemits]
    exact ⟨(setStream_get _ r r _).trans (if_pos rfl), rfl⟩
  | _ => cases hcall

/-- No two frames were let out in one slot, and a call lets a frame out when its slot had none yet. -/
structure OneEach (s : Fin kNumStreams) (first len : Nat) (h : List StreamEvent) : Prop where
  apart : (emissionTimes s h).Pairwise fun t u => slot first len t ≠ slot first len u
  gate : ∀ later e earlier now, h = later ++ e :: earlier → callTime s e = some now →
    (e.label.2 = true ↔ ∀ u ∈ emissionTimes s earlier, slot first len u ≠ slot first len now)

/-- The slot of the latest call has a frame, and no later slot has one. -/
structure UpToDate (s : Fin kNumStreams) (first len last : Nat) (h : List StreamEvent) : Prop where
  latest : (callTimes s h).head? = some last
  before : ∀ u ∈ emissionTimes s h, slot first len u ≤ slot first len last
  reached : ∃ u ∈ emissionTimes s h, slot first len u = slot first len last

theorem emissionTime_of_emits (hcall : callTime s e = some now) (hemits : e.label.2 = true) :
    emissionTime s e = some now := by
  unfold emissionTime
  rw [hemits]
  exact hcall

theorem emissionTime_of_silent (hsilent : ¬ e.label.2 = true) : emissionTime s e = none :=
  if_neg hsilent

theorem emissionTimes_cons_other (hother : callTime s e = none) :
    emissionTimes s (e :: h) = emissionTimes s h := by
  refine List.filterMap_cons_none ?_
  unfold emissionTime
  rw [hother, ite_self]

theorem UpToDate.cons_other (hdate : UpToDate s first len last h) (hother : callTime s e = none) :
    UpToDate s first len last (e :: h) := by
  have hcalls : callTimes s (e :: h) = callTimes s h := List.filterMap_cons_none hother
  obtain ⟨hlatest, hbefore, hreached⟩ := hdate
  rw [← emissionTimes_cons_other hother] at hbefore hreached
  exact ⟨hcalls ▸ hlatest, hbefore, hreached⟩

theorem OneEach.cons_other (hone : OneEach s first len h) (hother : callTime s e = none) :
    OneEach s first len (e :: h) := by
  refine ⟨?_, fun later x earlier now heq hcall => ?_⟩
  · rw [emissionTimes_cons_other hother]
    exact hone.apart
  · cases later with
    | nil =>
      obtain ⟨rfl, rfl⟩ := List.cons.inj heq
      cases hother.symm.trans hcall
    | cons y later => exact hone.gate later x earlier now (List.cons.inj heq).2 hcall

/-- A call that lets a frame out exactly when its slot is later than the latest. -/
theorem OneEach.cons_call (hone : OneEach s first len h) (hdate : UpToDate s first len last h)
    (hcall : callTime s e = some now) (hle : last ≤ now)
    (hemits : e.label.2 = true ↔ slot first len now ≠ slot first len last) :
    OneEach s first len (e :: h) ∧ UpToDate s first len now (e :: h) := by
  have hmono : slot first len last ≤ slot first len now := slot_mono hle
  have hnew : e.label.2 = true ↔ ∀ u ∈ emissionTimes s h, slot first len u ≠ slot first len now := by
    rw [hemits]
    constructor
    · intro hne u hu heq
      have hbefore := hdate.before u hu
      omega
    · intro hall heq
      obtain ⟨u, hu, hslot⟩ := hdate.reached
      exact hall u hu (hslot.trans heq.symm)
  have hlatest : (callTimes s (e :: h)).head? = some now := by
    unfold callTimes
    rw [List.filterMap_cons_some hcall]
    rfl
  have hgate : ∀ later x earlier t, e :: h = later ++ x :: earlier → callTime s x = some t →
      (x.label.2 = true ↔ ∀ u ∈ emissionTimes s earlier, slot first len u ≠ slot first len t) := by
    intro later x earlier t heq hx
    cases later with
    | nil =>
      obtain ⟨rfl, rfl⟩ := List.cons.inj heq
      obtain rfl := Option.some.inj (hcall.symm.trans hx)
      exact hnew
    | cons y later => exact hone.gate later x earlier t (List.cons.inj heq).2 hx
  by_cases hout : e.label.2 = true
  · have hcons : emissionTimes s (e :: h) = now :: emissionTimes s h :=
      List.filterMap_cons_some (emissionTime_of_emits hcall hout)
    refine ⟨⟨?_, hgate⟩, hlatest, ?_, ?_⟩
    · rw [hcons]
      exact List.pairwise_cons.mpr ⟨fun u hu => (hnew.mp hout u hu).symm, hone.apart⟩
    · rw [hcons]
      exact List.forall_mem_cons.mpr ⟨le_refl _, fun u hu => (hdate.before u hu).trans hmono⟩
    · rw [hcons]
      exact ⟨now, List.mem_cons_self .., rfl⟩
  · have hcons : emissionTimes s (e :: h) = emissionTimes s h :=
      List.filterMap_cons_none (emissionTime_of_silent hout)
    have hsame : slot first len now = slot first len last := not_not.mp fun hne => hout (hemits.mpr hne)
    refine ⟨⟨?_, hgate⟩, hlatest, ?_, ?_⟩
    · rw [hcons]
      exact hone.apart
    · rw [hcons, hsame]
      exact hdate.before
    · rw [hcons, hsame]
      exact hdate.reached

/-- The calls come in time: each less than a wrap of the clock after the slot of the one before began. -/
def InTime (s : Fin kNumStreams) (first len : Nat) (h : List StreamEvent) : Prop :=
  (callTimes s h).IsChain fun now last => last ≤ now ∧ now < start first len last + 2 ^ 32

/-- The stream of a run since it was primed. -/
def Slotted (s : Fin kNumStreams) (base : StreamState) (first len : Nat) (h : List StreamEvent)
    (tel : SubscriptionManager) : Prop :=
  OneEach s first len h ∧ ∃ last, UpToDate s first len last h ∧
    Phased base (tel.streams.get s) first len last

theorem slotted_primes (hstep : WithOutput SubscriptionManager.step e.pre e.label e.post)
    (hprimes : Primes s first e) :
    Slotted s (e.pre.streams.get s) first (e.pre.streams.get s).interval_ms.toNat [e] e.post := by
  obtain ⟨hcall, henabled, hinterval, hunprimed⟩ := hprimes
  obtain ⟨hpost, hout⟩ := emitStep_of_call hstep hcall
  obtain ⟨hphased, hemits⟩ := phased_primes henabled hinterval hunprimed first
  rw [← hout] at hemits
  have hcalls : callTimes s [e] = [first] := List.filterMap_cons_some hcall
  have htimes : emissionTimes s [e] = [first] :=
    List.filterMap_cons_some (emissionTime_of_emits hcall hemits)
  refine ⟨⟨?_, fun later x earlier now heq hx => ?_⟩, first, ⟨?_, ?_, ?_⟩, hpost ▸ hphased⟩
  · rw [htimes]
    exact List.pairwise_singleton _ _
  · obtain ⟨rfl, hnil⟩ := List.append_eq_singleton_iff.mp heq.symm |>.resolve_right fun h => by
      cases h.2
    obtain ⟨rfl, rfl⟩ := List.cons.inj hnil
    exact iff_of_true hemits nofun
  · rw [hcalls]
    rfl
  · rw [htimes]
    exact fun u hu => le_of_eq (congrArg _ (List.mem_singleton.mp hu))
  · rw [htimes]
    exact ⟨first, List.mem_singleton_self _, rfl⟩

theorem slotted_step (hstep : WithOutput SubscriptionManager.step e.pre e.label e.post)
    (hslotted : Slotted s base first len h e.pre) (hprimed : (e.post.streams.get s).primed = true)
    (htimes : InTime s first len (e :: h)) : Slotted s base first len (e :: h) e.post := by
  obtain ⟨hone, last, hdate, hphased⟩ := hslotted
  cases hcall : callTime s e with
  | none =>
    rcases unmoved_of_other hstep hcall with hsame | hunprimed
    · exact ⟨hone.cons_other hcall, last, hdate.cons_other hcall, hsame ▸ hphased⟩
    · cases hprimed.symm.trans hunprimed
  | some now =>
    obtain ⟨hpost, hout⟩ := emitStep_of_call hstep hcall
    unfold InTime callTimes at htimes
    rw [List.filterMap_cons_some hcall] at htimes
    obtain ⟨hle, hrange⟩ := htimes.rel_head? hdate.latest
    obtain ⟨hphased', hemits⟩ := hphased.call hle hrange
    rw [← hout] at hemits
    obtain ⟨hone', hdate'⟩ := hone.cons_call hdate hcall hle hemits
    exact ⟨hone', now, hdate', hpost ▸ hphased'⟩

theorem InTime.of_append {later : List StreamEvent} (htimes : InTime s first len (later ++ h)) :
    InTime s first len h := by
  unfold InTime callTimes at htimes
  rw [List.filterMap_append] at htimes
  exact htimes.right_of_append

theorem slotted_of_run {since earlier : List StreamEvent} {prime : StreamEvent}
    (run : StreamRun (since ++ prime :: earlier) tel) (hprimes : Primes s first prime)
    (hkept : ∀ e ∈ since, (e.post.streams.get s).primed = true)
    (htimes : InTime s first (prime.pre.streams.get s).interval_ms.toNat (since ++ [prime])) :
    Slotted s (prime.pre.streams.get s) first (prime.pre.streams.get s).interval_ms.toNat
      (since ++ [prime]) tel := by
  induction since generalizing tel with
  | nil =>
    obtain ⟨hpost, hstep, -⟩ := run.of_cons
    rw [← hpost]
    exact slotted_primes hstep hprimes
  | cons e since ih =>
    obtain ⟨hpost, hstep, hbefore⟩ := run.of_cons
    obtain ⟨hprimed, hkept⟩ := List.forall_mem_cons.mp hkept
    rw [← hpost]
    have hlonger : InTime s first (prime.pre.streams.get s).interval_ms.toNat
        ([e] ++ (since ++ [prime])) := htimes
    exact slotted_step hstep (ih hbefore hkept hlonger.of_append) hprimed htimes

/-- Every slot from `first` to that of the latest call has been counted, with one frame in each slot that
was called in. -/
structure SlotsConserved (s : Fin kNumStreams) (first : Nat) (base : StreamState)
    (h : List StreamEvent) (st : StreamState) : Prop where
  counted : ∀ last ∈ (callTimes s h).head?,
    tally base st = UInt32.ofNat (1 + (last - first) / base.interval_ms.toNat)
  phase : ∀ last ∈ (callTimes s h).head?, ∃ phase, st.last_emit_ms = UInt32.ofNat phase ∧
    phase % base.interval_ms.toNat = first % base.interval_ms.toNat ∧ first ≤ phase ∧ phase ≤ last
  slots : OneEach s first base.interval_ms.toNat h

/-- The slots of a stream since it was primed. -/
theorem stream_slots_conserved {since earlier : List StreamEvent} {prime : StreamEvent}
    {tel : SubscriptionManager} {s : Fin kNumStreams} {first : Nat}
    (run : StreamRun (since ++ prime :: earlier) tel) (hprimes : Primes s first prime)
    (hkept : ∀ e ∈ since, (e.post.streams.get s).primed = true)
    (htimes : InTime s first (prime.pre.streams.get s).interval_ms.toNat (since ++ [prime])) :
    SlotsConserved s first (prime.pre.streams.get s) (since ++ [prime]) (tel.streams.get s) := by
  obtain ⟨hone, last, hdate, hphased⟩ := slotted_of_run run hprimes hkept htimes
  refine ⟨fun t ht => ?_, fun t ht => ?_, hone⟩
  · obtain rfl := Option.some.inj (hdate.latest.symm.trans ht)
    rw [Nat.add_comm]
    exact hphased.counted
  · obtain rfl := Option.some.inj (hdate.latest.symm.trans ht)
    exact ⟨_, hphased.phase, start_mod, first_le_start, start_le hphased.reached⟩

/-- The control stream is subscribed at its largest rate, with slots of 10 ms. -/
def subscribed : StreamEvent where
  pre := {}
  label := (.subscribe 1 100, false)
  post := (SubscriptionManager.subscribe {} 1 100).1

def primed : StreamEvent where
  pre := subscribed.post
  label := (.shouldEmit 1 0, true)
  post := (subscribed.post.shouldEmit 1 0).1

/-- The manager after further calls at these times, and the events of these calls. -/
def calledAt (times : List Nat) : SubscriptionManager × List StreamEvent :=
  record SubscriptionManager.step primed.post [] (times.map (.shouldEmit 1))

theorem calledAt_run (times : List Nat) :
    StreamRun ((calledAt times).2 ++ primed :: [subscribed]) (calledAt times).1 := by
  have hfirst : StreamRun [primed, subscribed] primed.post := (Run.nil.step rfl).step rfl
  have hrun := run_record SubscriptionManager.step (times.map (.shouldEmit 1)) hfirst
  rw [record_append] at hrun
  exact hrun

theorem primed_primes : Primes 1 0 primed := ⟨rfl, rfl, by decide, rfl⟩

theorem stream_slots_conserved_control :
    SlotsConserved 1 0 (primed.pre.streams.get 1) ((calledAt [9, 25, 4294967295]).2 ++ [primed])
      ((calledAt [9, 25, 4294967295]).1.streams.get 1) :=
  stream_slots_conserved (calledAt_run _) primed_primes (by decide) (by unfold InTime; decide)

/-- The calls are less than a wrap of the clock apart. -/
def GapsBelowWrap (s : Fin kNumStreams) (h : List StreamEvent) : Prop :=
  (callTimes s h).IsChain fun now last => last ≤ now ∧ now < last + 2 ^ 32

/-- A call less than a wrap after the one before, but a wrap after the start of its slot, lets no frame out
of a slot that has none; and the counters themselves wrap. -/
theorem slot_without_frame :
    (¬ ∀ (since earlier : List StreamEvent) (prime : StreamEvent) (tel : SubscriptionManager)
      (s : Fin kNumStreams) (first : Nat), StreamRun (since ++ prime :: earlier) tel →
      Primes s first prime → (∀ e ∈ since, (e.post.streams.get s).primed = true) →
      GapsBelowWrap s (since ++ [prime]) →
      SlotsConserved s first (prime.pre.streams.get s) (since ++ [prime]) (tel.streams.get s)) ∧
    ¬ ∀ (since earlier : List StreamEvent) (prime : StreamEvent) (tel : SubscriptionManager)
      (s : Fin kNumStreams) (first : Nat), StreamRun (since ++ prime :: earlier) tel →
      Primes s first prime → (∀ e ∈ since, (e.post.streams.get s).primed = true) →
      GapsBelowWrap s (since ++ [prime]) → ∀ last ∈ (callTimes s (since ++ [prime])).head?,
        ((tel.streams.get s).emitted - (prime.pre.streams.get s).emitted).toNat +
          ((tel.streams.get s).dropped - (prime.pre.streams.get s).dropped).toNat =
        1 + (last - first) / (prime.pre.streams.get s).interval_ms.toNat := by
  refine ⟨fun hconserved => ?_, fun hexact => ?_⟩
  · have hslots := (hconserved _ _ _ _ _ _ (calledAt_run [9, 4294967304]) primed_primes
      (by decide) (by unfold GapsBelowWrap; decide)).slots
    have hgate := hslots.gate [] _ _ 4294967304 rfl rfl
    revert hgate
    decide
  · have hsum := hexact _ _ _ _ _ _
      (calledAt_run ((List.range 11).map fun k => (k + 1) * 4294967290)) primed_primes (by decide)
      (by unfold GapsBelowWrap; decide) 47244640190 rfl
    revert hsum
    decide

end HexapodVerified.Protocol
