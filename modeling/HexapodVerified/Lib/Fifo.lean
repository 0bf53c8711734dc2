import Mathlib.Data.Int.ModEq
import HexapodVerified.Lib.Runs
import HexapodVerified.Lib.Tables

/-!
# Bounded queues

A first-in first-out queue of bounded capacity counts what it has to refuse. The cells of a ring hold one: they
are read from the head on, around the end. A consumer that looks at the front, works on it and takes it away only
when the work was done loses nothing and does nothing twice, whatever producers put in meanwhile.
-/

namespace BoundedQueue

open Transition Tables

universe u v w

variable {α : Type u}

/-! ## The queue -/

/-- The elements, the oldest first, and the number of those refused, which stops at `limit`. -/
structure Fifo (α : Type u) (capacity limit : Nat) where
  items : List α := []
  dropped : Nat := 0

inductive Call (α : Type u) where
  | push (x : α)
  | peek
  | pop

inductive Answer (α : Type u) where
  | done (ok : Bool)
  | front (x : Option α)

variable {capacity limit : Nat}

def Fifo.call (f : Fifo α capacity limit) : Call α → Fifo α capacity limit × Answer α
  | .push x =>
    if f.items.length < capacity then ({ f with items := f.items ++ [x] }, .done true)
    else ({ f with dropped := min limit (f.dropped + 1) }, .done false)
  | .peek => (f, .front f.items.head?)
  | .pop =>
    match f.items with
    | [] => (f, .done false)
    | _ :: items => ({ f with items := items }, .done true)

abbrev QueueEvent (σ : Type v) (α : Type u) : Type (max u v) := Event σ (Call α × Answer α)

def refused {σ : Type v} (h : List (QueueEvent σ α)) : Nat :=
  h.countP fun e => match e.label with
    | (.push _, .done false) => true
    | _ => false

theorem dropped_eq_refused {h : List (QueueEvent (Fifo α capacity limit) α)} {f : Fifo α capacity limit}
    (run : Run (WithOutput Fifo.call) {} h f) : f.dropped = min limit (refused h) := by
  refine run.history_invariant (fun h f => f.dropped = min limit (refused h)) (Nat.min_zero limit).symm ?_
  rintro h f ⟨call, answer⟩ t - ih hstep
  have hstate : (f.call call).1 = t := congrArg Prod.fst hstep
  have hanswer : (f.call call).2 = answer := congrArg Prod.snd hstep
  cases call with
  | push x =>
    unfold Fifo.call at hstate hanswer
    dsimp only at hstate hanswer
    by_cases hroom : f.items.length < capacity
    · rw [if_pos hroom] at hstate hanswer
      subst hstate hanswer
      exact ih
    · rw [if_neg hroom] at hstate hanswer
      subst hstate hanswer
      have hcount : refused (⟨f, (.push x, .done false), { f with dropped := min limit (f.dropped + 1) }⟩ :: h) =
          refused h + 1 := List.countP_cons_of_pos rfl
      show min limit (f.dropped + 1) = _
      rw [hcount, ih]
      omega
  | peek =>
    subst hstate hanswer
    exact ih
  | pop =>
    have hdropped : t.dropped = f.dropped := by
      rw [← hstate]
      unfold Fifo.call
      dsimp only
      split <;> rfl
    rw [hdropped, ih]
    rfl

/-! ## The ring -/

section Ring

variable {n : Nat}

/-- The place `i` places after the head. -/
def place (head : Fin n) (i : Nat) : Fin n := ⟨(head + i) % n, Nat.mod_lt _ head.pos⟩

theorem place_zero (head : Fin n) : place head 0 = head :=
  Fin.ext (Nat.mod_eq_of_lt head.isLt)

theorem place_place (head : Fin n) (i j : Nat) : place (place head i) j = place head (i + j) := by
  apply Fin.ext
  show ((head + i) % n + j) % n = (head + (i + j)) % n
  rw [Nat.mod_add_mod, Nat.add_assoc]

theorem place_ne (head : Fin n) {i j : Nat} (hij : i < j) (hj : j < n) : place head i ≠ place head j := by
  intro heq
  have hmod : head + i ≡ head + j [MOD n] := congrArg Fin.val heq
  have hij' := (Nat.ModEq.add_left_cancel' _ hmod).eq_of_lt_of_lt (hij.trans hj) hj
  omega

/-- What `count` cells hold, from the head on. -/
def contents (cells : Vector α n) (head : Fin n) (count : Nat) : List α :=
  (List.range count).map fun i => cells.get (place head i)

variable (cells : Vector α n) (head : Fin n)

theorem length_contents (count : Nat) : (contents cells head count).length = count := by
  unfold contents
  rw [List.length_map, List.length_range]

theorem contents_succ (count : Nat) : contents cells head (count + 1) =
    cells.get head :: contents cells (place head 1) count := by
  unfold contents
  rw [List.range_succ_eq_map, List.map_cons, List.map_map, place_zero]
  congr 1
  refine List.map_congr_left fun i _ => ?_
  rw [place_place, Nat.add_comm 1 i]
  rfl

theorem contents_set {count : Nat} (hroom : count < n) (x : α) :
    contents (cells.setIfInBounds (place head count).val x) head (count + 1) = contents cells head count ++ [x] := by
  unfold contents
  rw [List.range_succ, List.map_append, List.map_singleton, get_set_self]
  congr 1
  refine List.map_congr_left fun i hi => ?_
  exact get_set_ne cells (place_ne head (List.mem_range.mp hi) hroom) x

end Ring

/-! ## The consumer -/

inductive Phase (α : Type u) where
  | idle
  /-- it has looked at the front and works on it -/
  | writing (x : α)
  /-- the work was done -/
  | popping

structure Drain (σ : Type v) (α : Type u) where
  queue : σ
  phase : Phase α := .idle

inductive DrainAction (α : Type u) where
  /-- a producer offers an element, and the queue takes it or refuses it -/
  | push (x : α) (ok : Bool)
  | peek (front : Option α)
  | write (x : α) (ok : Bool)
  | pop

section Drain

variable {σ : Type v} {τ : Type w}

/-- Producers may step at any time. The consumer peeks, works on what it has seen, and pops when that was
done. -/
inductive DrainStep (call : σ → Call α → σ × Answer α) : Drain σ α → DrainAction α → Drain σ α → Prop where
  | push {q q' : σ} {phase : Phase α} {x : α} {ok : Bool} (hcall : call q (.push x) = (q', .done ok)) :
      DrainStep call ⟨q, phase⟩ (.push x ok) ⟨q', phase⟩
  | peekSome {q q' : σ} {x : α} (hcall : call q .peek = (q', .front (some x))) :
      DrainStep call ⟨q, .idle⟩ (.peek (some x)) ⟨q', .writing x⟩
  | peekNone {q q' : σ} (hcall : call q .peek = (q', .front none)) :
      DrainStep call ⟨q, .idle⟩ (.peek none) ⟨q', .idle⟩
  | written {q : σ} {x : α} : DrainStep call ⟨q, .writing x⟩ (.write x true) ⟨q, .popping⟩
  | failed {q : σ} {x : α} : DrainStep call ⟨q, .writing x⟩ (.write x false) ⟨q, .idle⟩
  | pop {q q' : σ} {ok : Bool} (hcall : call q .pop = (q', .done ok)) :
      DrainStep call ⟨q, .popping⟩ .pop ⟨q', .idle⟩

abbrev DrainEvent (σ : Type v) (α : Type u) : Type (max u v) := Event (Drain σ α) (DrainAction α)

/-- The elements that the queue took, the oldest first; of the actions the latest is first. -/
def accepted (actions : List (DrainAction α)) : List α :=
  actions.reverse.filterMap fun action => match action with
    | .push x true => some x
    | _ => none

/-- The elements on which the work was done, the oldest first. -/
def written (actions : List (DrainAction α)) : List α :=
  actions.reverse.filterMap fun action => match action with
    | .write x true => some x
    | _ => none

def pending (phase : Phase α) (items : List α) : List α :=
  match phase with
  | .popping => items.tail
  | _ => items

def FrontKept (phase : Phase α) (items : List α) : Prop :=
  match phase with
  | .idle => True
  | .writing x => items.head? = some x
  | .popping => items ≠ []

theorem accepted_cons (action : DrainAction α) (actions : List (DrainAction α)) :
    accepted (action :: actions) = accepted actions ++ accepted [action] := by
  unfold accepted
  rw [List.reverse_cons, List.filterMap_append]
  rfl

theorem written_cons (action : DrainAction α) (actions : List (DrainAction α)) :
    written (action :: actions) = written actions ++ written [action] := by
  unfold written
  rw [List.reverse_cons, List.filterMap_append]
  rfl

theorem FrontKept.append {phase : Phase α} {items : List α} (hfront : FrontKept phase items) (x : α) :
    FrontKept phase (items ++ [x]) := by
  cases phase with
  | idle => exact trivial
  | writing y =>
    have hhead : items.head? = some y := hfront
    show (items ++ [x]).head? = some y
    rw [List.head?_append, hhead]
    rfl
  | popping => exact List.append_ne_nil_of_left_ne_nil hfront _

theorem FrontKept.pending_append {phase : Phase α} {items : List α} (hfront : FrontKept phase items) (x : α) :
    pending phase (items ++ [x]) = pending phase items ++ [x] := by
  cases phase with
  | idle => rfl
  | writing y => rfl
  | popping => exact List.tail_append_of_ne_nil hfront

theorem conserved_step {s t : Drain (Fifo α capacity limit) α} {action : DrainAction α}
    (hstep : DrainStep Fifo.call s action t) (hfront : FrontKept s.phase s.queue.items) :
    FrontKept t.phase t.queue.items ∧
      pending s.phase s.queue.items ++ accepted [action] = written [action] ++ pending t.phase t.queue.items := by
  cases hstep with
  | @push q q' phase x ok hcall =>
    unfold Fifo.call at hcall
    dsimp only at hcall
    by_cases hroom : q.items.length < capacity
    · rw [if_pos hroom] at hcall
      cases hcall
      exact ⟨hfront.append x, (hfront.pending_append x).symm⟩
    · rw [if_neg hroom] at hcall
      cases hcall
      exact ⟨hfront, List.append_nil _⟩
  | @peekSome q q' x hcall =>
    have hqueue : q = q' := congrArg Prod.fst hcall
    have hhead : q.items.head? = some x := Answer.front.inj (congrArg Prod.snd hcall)
    subst hqueue
    exact ⟨hhead, List.append_nil _⟩
  | @peekNone q q' hcall =>
    have hqueue : q = q' := congrArg Prod.fst hcall
    subst hqueue
    exact ⟨trivial, List.append_nil _⟩
  | @written q x =>
    have hhead : q.items.head? = some x := hfront
    obtain ⟨rest, hitems⟩ := List.head?_eq_some_iff.mp hhead
    refine ⟨?_, ?_⟩
    · show q.items ≠ []
      rw [hitems]
      exact List.cons_ne_nil _ _
    · simp [pending, accepted, BoundedQueue.written, hitems]
  | failed => exact ⟨trivial, List.append_nil _⟩
  | @pop q q' ok hcall =>
    have hne : q.items ≠ [] := hfront
    obtain ⟨x, rest, hitems⟩ := List.exists_cons_of_ne_nil hne
    unfold Fifo.call at hcall
    rw [hitems] at hcall
    cases hcall
    refine ⟨trivial, ?_⟩
    simp [pending, accepted, BoundedQueue.written, hitems]

/-- Nothing is lost and nothing is done twice: what was taken is what was worked on, followed by what still has
to be. -/
theorem accepted_eq_written {h : List (DrainEvent (Fifo α capacity limit) α)} {s : Drain (Fifo α capacity limit) α}
    (run : Run (DrainStep Fifo.call) ⟨{}, .idle⟩ h s) :
    FrontKept s.phase s.queue.items ∧
      accepted (h.map Event.label) = written (h.map Event.label) ++ pending s.phase s.queue.items := by
  refine run.history_invariant
    (fun h s => FrontKept s.phase s.queue.items ∧
      accepted (h.map Event.label) = written (h.map Event.label) ++ pending s.phase s.queue.items) ?_ ?_
  · exact ⟨trivial, rfl⟩
  · rintro h s action t - ⟨hfront, hsame⟩ hstep
    obtain ⟨hfront', hconserved⟩ := conserved_step hstep hfront
    refine ⟨hfront', ?_⟩
    rw [List.map_cons, accepted_cons, written_cons, hsame, List.append_assoc, hconserved, List.append_assoc]

def Drain.map (view : σ → τ) (s : Drain σ α) : Drain τ α := ⟨view s.queue, s.phase⟩

variable {call : σ → Call α → σ × Answer α} {call' : τ → Call α → τ × Answer α} {view : σ → τ}

theorem DrainStep.map (hview : ∀ q c, call' (view q) c = (view (call q c).1, (call q c).2)) {s t : Drain σ α}
    {action : DrainAction α} (hstep : DrainStep call s action t) :
    DrainStep call' (s.map view) action (t.map view) := by
  cases hstep with
  | push hcall => exact .push (by rw [hview, hcall])
  | peekSome hcall => exact .peekSome (by rw [hview, hcall])
  | peekNone hcall => exact .peekNone (by rw [hview, hcall])
  | written => exact .written
  | failed => exact .failed
  | pop hcall => exact .pop (by rw [hview, hcall])

theorem WithOutput.map (hview : ∀ q c, call' (view q) c = (view (call q c).1, (call q c).2)) {q r : σ}
    {io : Call α × Answer α} (hstep : WithOutput call q io r) : WithOutput call' (view q) io (view r) := by
  have hcall : call q io.1 = (r, io.2) := hstep
  show call' (view q) io.1 = (view r, io.2)
  rw [hview, hcall]

theorem refused_map (view : σ → τ) (h : List (QueueEvent σ α)) : refused (h.map (Event.map view id)) = refused h := by
  unfold refused
  rw [List.countP_map]
  rfl

end Drain

end BoundedQueue
