import Mathlib.Data.List.Infix
import HexapodVerified.Lib.Bytes

/-!
# Readers

A reader takes from a sequential source more than it was asked for, and keeps the rest. Wherever it stands in the
file, what it has kept and what the source still hands out begin with the file from there on.
-/

namespace ReadAhead

variable {α : Type*}

/-- At `position` in `file`, `pending` has been read ahead and `stream` goes on behind it. -/
structure Ahead (file : List α) (position : Nat) (pending stream : List α) : Prop where
  within : position + pending.length ≤ file.length
  unread : file.drop position <+: pending ++ stream

variable {file pending stream : List α} {position n : Nat}

theorem ahead_start (h : file <+: stream) : Ahead file 0 [] stream :=
  ⟨Nat.zero_le _, h⟩

/-- There is enough behind what was read ahead. -/
theorem Ahead.length_le (h : Ahead file position pending stream) :
    file.length - position ≤ pending.length + stream.length := by
  have hle := h.unread.length_le
  rwa [List.length_drop, List.length_append] at hle

theorem Ahead.refill (h : Ahead file position [] stream) (hn : n ≤ file.length - position) :
    Ahead file position (stream.take n) (stream.drop n) := by
  have hwithin : position ≤ file.length := h.within
  constructor
  · rw [List.length_take]
    omega
  · rw [List.take_append_drop]
    exact h.unread

theorem Ahead.advance (h : Ahead file position pending stream) (hn : n ≤ pending.length) :
    Ahead file (position + n) (pending.drop n) stream := by
  have hwithin := h.within
  constructor
  · rw [List.length_drop]
    omega
  · have hdrop := h.unread.drop n
    rwa [List.drop_drop, List.drop_append_of_le_length hn] at hdrop

theorem Ahead.take_eq (h : Ahead file position pending stream) (hn : n ≤ pending.length) :
    pending.take n = (file.drop position).take n := by
  have hwithin := h.within
  rcases h.unread with ⟨rest, hrest⟩
  have hlen : n ≤ (file.drop position).length := by
    rw [List.length_drop]
    omega
  rw [← List.take_append_of_le_length hlen, hrest, List.take_append_of_le_length hn]

end ReadAhead

/-!
## Readers that accept what a writer makes

A reader takes a value from the front of a stream and may fail with an error. `Reads read tokens P` says
that it takes exactly these tokens, whatever comes behind them, and that what it returns satisfies `P`. A
reader that goes field by field is treated one field at a time, by the rule of its bind.
-/

namespace Readers

variable {τ ε α β γ : Type} {P : α → Prop} {Q : β → Prop} {read : StateT (List τ) (Except ε) α}
  {tokens tokens' : List τ}

/-- Reads `n` values, in order. -/
def many (read : StateT (List τ) (Except ε) α) : Nat → StateT (List τ) (Except ε) (List α)
  | 0 => return []
  | n + 1 => do
    let first ← read
    let others ← many read n
    return first :: others

/-- The reader takes the tokens and returns something that satisfies `P`. -/
def Reads (read : StateT (List τ) (Except ε) α) (tokens : List τ) (P : α → Prop) : Prop :=
  ∀ rest, ∃ a, P a ∧ read (tokens ++ rest) = .ok (a, rest)

theorem Reads.imp {P' : α → Prop} (h : Reads read tokens P) (himp : ∀ a, P a → P' a) :
    Reads read tokens P' := by
  intro rest
  obtain ⟨a, ha, hread⟩ := h rest
  exact ⟨a, himp a ha, hread⟩

theorem Reads.pure {a : α} (ha : P a) :
    Reads (Pure.pure a : StateT (List τ) (Except ε) α) [] P := fun _ => ⟨a, ha, rfl⟩

theorem bind_of_ok {next : α → StateT (List τ) (Except ε) β} {input rest : List τ} {a : α}
    (hread : read input = .ok (a, rest)) : (read >>= next) input = next a rest := by
  show (read input).bind (fun out => next out.1 out.2) = _
  rw [hread]
  rfl

theorem Reads.bind {next : α → StateT (List τ) (Except ε) β} (h : Reads read tokens P)
    (hnext : ∀ a, P a → Reads (next a) tokens' Q) : Reads (read >>= next) (tokens ++ tokens') Q := by
  intro rest
  obtain ⟨a, ha, hread⟩ := h (tokens' ++ rest)
  obtain ⟨b, hb, hread'⟩ := hnext a ha rest
  refine ⟨b, hb, ?_⟩
  rw [List.append_assoc, bind_of_ok hread, hread']

theorem Reads.unless {fails : Prop} [Decidable fails] {fail : StateT (List τ) (Except ε) α}
    (hpass : ¬ fails) (h : Reads read tokens P) : Reads (if fails then fail else read) tokens P := by
  rwa [if_neg hpass]

theorem Reads.last {next : α → StateT (List τ) (Except ε) β} (h : Reads read tokens P)
    (hnext : ∀ a, P a → Reads (next a) [] Q) : Reads (read >>= next) tokens Q := by
  have hbind := h.bind hnext
  rwa [List.append_nil] at hbind

theorem reads_many {put : γ → List τ} (values : List γ)
    (h : ∀ value ∈ values, Reads read (put value) fun _ => True) :
    Reads (many read values.length) (values.flatMap put) fun _ => True := by
  induction values with
  | nil => exact .pure trivial
  | cons value values ih =>
    rw [List.forall_mem_cons] at h
    refine h.1.bind fun first _ => ?_
    exact (ih h.2).last fun others _ => .pure trivial

theorem Reads.run (h : Reads read tokens P) : ∃ a, P a ∧ read tokens = .ok (a, []) := by
  have hread := h []
  rwa [List.append_nil] at hread

end Readers
