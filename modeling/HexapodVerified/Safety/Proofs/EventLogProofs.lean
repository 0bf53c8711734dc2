import HexapodVerified.Safety.EventLog

/-!
# The event log is a bounded queue

The ring answers every call as a queue of eight events does that counts what it refuses. So what `i2cTask` has
written is, in order, what was taken in, up to the events that still wait.
-/

namespace HexapodVerified.Safety

open BoundedQueue Tables Transition

namespace PersistentEventQueue

variable (q : PersistentEventQueue)

theorem length_view : q.view.items.length = q.count_ := length_contents ..

theorem dropped_succ (d : UInt16) :
    (if d ≠ 0xFFFF then d + 1 else d).toNat = min 0xFFFF (d.toNat + 1) := by
  by_cases hlimit : d = 0xFFFF
  · subst hlimit
    rfl
  · rw [if_pos hlimit]
    have hne : d.toNat ≠ 65535 := fun heq => hlimit (UInt16.toNat_inj.mp heq)
    have hlt : d.toNat < 65536 := d.toNat_lt
    have hsucc : (d + 1).toNat = d.toNat + 1 := by
      rw [UInt16.toNat_add]
      exact Nat.mod_eq_of_lt (by show d.toNat + 1 < 65536; omega)
    rw [hsucc]
    omega

theorem view_push (event : PersistentEvent) :
    q.view.call (.push event) = ((q.push event).1.view, .done (q.push event).2) := by
  unfold Fifo.call push
  dsimp only
  rw [length_view]
  by_cases hfull : q.count_ ≥ kCapacity
  · rw [if_neg (Nat.not_lt.mpr hfull), dif_pos hfull]
    unfold view
    rw [dropped_succ]
  · rw [if_pos (Nat.lt_of_not_le hfull), dif_neg hfull]
    unfold view
    dsimp only
    rw [q.tail_eq, contents_set _ _ (Nat.lt_of_not_le hfull)]

theorem view_peek : q.view.call .peek = (q.view, .front q.peek) := by
  unfold Fifo.call peek view
  cases hcount : q.count_ with
  | zero => rfl
  | succ count =>
    rw [if_neg (Nat.succ_ne_zero count), contents_succ]
    rfl

theorem view_pop : q.view.call .pop = (q.pop.1.view, .done q.pop.2) := by
  unfold Fifo.call pop
  by_cases hempty : q.count_ = 0
  · have hitems : q.view.items = [] := List.length_eq_zero_iff.mp ((length_view q).trans hempty)
    rw [dif_pos hempty]
    rw [hitems]
  · obtain ⟨count, hcount⟩ := Nat.exists_eq_succ_of_ne_zero hempty
    have hitems : q.view.items = q.events_.get q.head_ :: contents q.events_ (place q.head_ 1) (q.count_ - 1) := by
      unfold view
      rw [hcount]
      exact contents_succ ..
    rw [dif_neg hempty]
    rw [hitems]
    rfl

theorem view_call (c : Call PersistentEvent) : q.view.call c = ((q.call c).1.view, (q.call c).2) := by
  cases c with
  | push event => exact view_push q event
  | peek => exact view_peek q
  | pop => exact view_pop q

end PersistentEventQueue

variable {s t : EventDrain} {action : LogAction}

theorem drain_step (hstep : LogStep s action t) :
    DrainStep PersistentEventQueue.call s.drain action.drain t.drain := by
  cases hstep with
  | push event => exact .push rfl
  | @peekSome q _ _ _ hdue hpeek =>
    refine .peekSome ?_
    show (q, Answer.front q.peek) = _
    rw [hpeek]
  | @peekNone q _ _ hdue hpeek =>
    refine .peekNone ?_
    show (q, Answer.front q.peek) = _
    rw [hpeek]
  | written => exact .written
  | failed => exact .failed
  | pop => exact .pop rfl

theorem drain_run {h : List (Event EventDrain LogAction)} (run : Run LogStep {} h s) :
    Run (DrainStep Fifo.call) ⟨PersistentEventQueue.view {}, .idle⟩
      ((h.map (Event.map EventDrain.drain LogAction.drain)).map
        (Event.map (Drain.map PersistentEventQueue.view) id))
      (s.drain.map PersistentEventQueue.view) := by
  have htask : ∀ s action t, LogStep s action t →
      DrainStep PersistentEventQueue.call s.drain action.drain t.drain := fun _ _ _ => drain_step
  have hqueue : ∀ s action t, DrainStep PersistentEventQueue.call s action t →
      DrainStep Fifo.call (s.map PersistentEventQueue.view) (id action) (t.map PersistentEventQueue.view) :=
    fun _ _ _ => DrainStep.map PersistentEventQueue.view_call
  exact (run.map htask).map hqueue

/-- The events the queue took and those on the card, each the oldest first. -/
def taken (h : List (Event EventDrain LogAction)) : List PersistentEvent := accepted (h.map fun e => e.label.drain)

def onCard (h : List (Event EventDrain LogAction)) : List PersistentEvent := written (h.map fun e => e.label.drain)

/-- The queue of the event log is a first-in first-out queue of eight events that counts those it refuses, up to
`0xFFFF`; whatever is pushed while an event is written, the events on the card are the accepted ones in their
order, up to those that still wait in the queue. -/
theorem queue_first_in_first_out :
    (∀ h q, Run (WithOutput PersistentEventQueue.call) {} h q →
      Run (WithOutput Fifo.call) ({} : Fifo PersistentEvent kCapacity 0xFFFF)
          (h.map (Event.map PersistentEventQueue.view id)) q.view ∧
        q.dropped_.toNat = min 0xFFFF (refused h)) ∧
      ∀ h s, Run LogStep {} h s →
        taken h = onCard h ++ pending s.point.phase s.g_persistentEvents.view.items := by
  refine ⟨fun h q run => ?_, fun h s run => ?_⟩
  · have hqueue : ∀ q io r, WithOutput PersistentEventQueue.call q io r →
        WithOutput Fifo.call q.view (id io) r.view := fun _ _ _ => WithOutput.map PersistentEventQueue.view_call
    have hfifo : Run (WithOutput Fifo.call) ({} : Fifo PersistentEvent kCapacity 0xFFFF)
        (h.map (Event.map PersistentEventQueue.view id)) q.view := run.map hqueue
    refine ⟨hfifo, ?_⟩
    have hdropped := dropped_eq_refused hfifo
    rw [refused_map] at hdropped
    exact hdropped
  · have hsame := (accepted_eq_written (drain_run run)).2
    rw [List.map_map, List.map_map] at hsame
    exact hsame

end HexapodVerified.Safety
