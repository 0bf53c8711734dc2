import Mathlib.Data.List.Basic
import Mathlib.Data.List.Induction
import Mathlib.Init

/-!
# Loops and growing lists

A `for (;;)` whose body either goes on or leaves. The loop is run with fuel; a body that fails, or a loop that
is still going when the fuel is spent, has no result. A measure that every pass takes something off says how
much fuel is enough.
-/

namespace Loops

/-- How a pass through the body ends: the loop goes on, or is left. -/
inductive Pass (σ : Type*) where
  | again (s : σ)
  | done (s : σ)

variable {σ : Type*}

def loop (pass : σ → Option (Pass σ)) : Nat → σ → Option σ
  | 0, _ => none
  | fuel + 1, s =>
    match pass s with
    | none => none
    | some (.again t) => loop pass fuel t
    | some (.done t) => some t

variable {pass : σ → Option (Pass σ)} {s t : σ}

theorem loop_of_again (h : pass s = some (.again t)) (n : Nat) :
    loop pass (n + 1) s = loop pass n t := by
  unfold loop
  rw [h]
  cases n <;> rfl

theorem loop_of_done (h : pass s = some (.done t)) (n : Nat) : loop pass (n + 1) s = some t := by
  unfold loop
  rw [h]

/-- The rule for a loop: `I` holds before each pass, every pass that goes on takes something off `measure`, and
what leaves the loop satisfies `Q`. -/
theorem loop_rule (I Q : σ → Prop) (measure : σ → Nat)
    (hpass : ∀ s, I s → (∃ t, pass s = some (.again t) ∧ measure t < measure s ∧ I t) ∨
      ∃ t, pass s = some (.done t) ∧ Q t)
    {n : Nat} (hs : I s) (hn : measure s < n) : ∃ t, loop pass n s = some t ∧ Q t := by
  induction n generalizing s with
  | zero => exact absurd hn (Nat.not_lt_zero _)
  | succ n ih =>
    rcases hpass s hs with ⟨t, hagain, hless, ht⟩ | ⟨t, hdone, ht⟩
    · rw [loop_of_again hagain]
      exact ih ht (by omega)
    · exact ⟨t, loop_of_done hdone n, ht⟩

/-- Two loops in step: related states stay related while both go on, and both are left together. -/
theorem loop_lockstep {τ : Type*} {pass' : τ → Option (Pass τ)} (R Q : σ → τ → Prop)
    (hpass : ∀ s s', R s s' →
      (∃ t t', pass s = some (.again t) ∧ pass' s' = some (.again t') ∧ R t t') ∨
      ∃ t t', pass s = some (.done t) ∧ pass' s' = some (.done t') ∧ Q t t')
    {s' : τ} {n m : Nat} (hR : R s s') (hnm : n ≤ m) (h : loop pass n s = some t) :
    ∃ t', loop pass' m s' = some t' ∧ Q t t' := by
  induction n generalizing s s' m with
  | zero => cases h
  | succ n ih =>
    rcases Nat.exists_eq_add_of_le' (Nat.lt_of_lt_of_le (Nat.succ_pos n) hnm) with ⟨k, rfl⟩
    rcases hpass s s' hR with ⟨u, u', hu, hu', hnext⟩ | ⟨u, u', hu, hu', hq⟩
    · rw [loop_of_again hu] at h
      rw [show k + (0 + 1) = k + 1 from rfl, loop_of_again hu']
      exact ih hnext (by omega) h
    · rw [loop_of_done hu] at h
      cases h
      exact ⟨u', loop_of_done hu' k, hq⟩

end Loops

/-!
## Lists that grow by a rule

A list is *grown* by a rule `P` when each of its elements is one that `P` admits after the elements before
it. A log, a journal or a stream of messages is described by such a rule; `Grown.rec_on` is the induction
that follows the way it came about.
-/

namespace Growth

universe u v

variable {α : Type u} {P Q : List α → α → Prop} {l earlier later : List α} {a : α}

def Grown (P : List α → α → Prop) (l : List α) : Prop :=
  ∀ earlier a later, l = earlier ++ a :: later → P earlier a

@[simp] theorem grown_nil : Grown P [] := by
  intro earlier a later heq
  exact absurd heq (by simp)

theorem grown_concat : Grown P (l ++ [a]) ↔ Grown P l ∧ P l a := by
  constructor
  · intro hgrown
    refine ⟨fun earlier b later heq => ?_, hgrown l a [] rfl⟩
    exact hgrown earlier b (later ++ [a]) (by rw [heq, List.append_assoc, List.cons_append])
  · rintro ⟨hgrown, ha⟩ earlier b later heq
    rcases List.eq_nil_or_concat later with rfl | ⟨later, c, rfl⟩
    · obtain ⟨rfl, hlast⟩ := List.append_inj' heq rfl
      obtain rfl := List.head_eq_of_cons_eq hlast
      exact ha
    · rw [List.concat_eq_append, ← List.cons_append, ← List.append_assoc] at heq
      obtain ⟨hl, -⟩ := List.append_inj' heq rfl
      exact hgrown earlier b later hl

theorem Grown.concat (hgrown : Grown P l) (ha : P l a) : Grown P (l ++ [a]) :=
  grown_concat.mpr ⟨hgrown, ha⟩

theorem Grown.of_append (hgrown : Grown P (earlier ++ later)) : Grown P earlier := by
  intro before a after heq
  exact hgrown before a (after ++ later) (by rw [heq, List.append_assoc, List.cons_append])

theorem Grown.admitted (hgrown : Grown P (earlier ++ a :: later)) : P earlier a :=
  hgrown earlier a later rfl

/-- What is true of the empty list and kept by each admitted element is true of every grown list. -/
@[elab_as_elim]
theorem Grown.rec_on {motive : List α → Prop} (hgrown : Grown P l) (hnil : motive [])
    (hconcat : ∀ l a, Grown P l → P l a → motive l → motive (l ++ [a])) : motive l := by
  induction l using List.reverseRecOn with
  | nil => exact hnil
  | append_singleton l a ih =>
    obtain ⟨hl, ha⟩ := grown_concat.mp hgrown
    exact hconcat l a hl ha (ih hl)

theorem Grown.imp (hgrown : Grown P l) (himp : ∀ l a, Grown P l → P l a → Q l a) : Grown Q l :=
  hgrown.rec_on grown_nil fun l a hl ha hq => hq.concat (himp l a hl ha)

end Growth
