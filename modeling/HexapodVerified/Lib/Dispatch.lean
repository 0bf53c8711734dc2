import Mathlib.Data.List.Basic

/-!
# Dispatch to the first stage that answers

A request is offered to one stage after the other until one answers it. A stage may change the state
whether it answers or not. `delegate` is the usual stage: a part of the state that may be absent and that
serves the requests which are its own.
-/

namespace Dispatch

universe u v w

variable {σ : Type u} {ρ : Type v} {α : Type w}

abbrev Stage (σ : Type u) (ρ : Type v) : Type (max u v) := σ → σ × Option ρ

def firstAnswer : List (Stage σ ρ) → Stage σ ρ
  | [], s => (s, none)
  | stage :: stages, s =>
    match stage s with
    | (s, some r) => (s, some r)
    | (s, none) => firstAnswer stages s

variable {stage : Stage σ ρ} {stages : List (Stage σ ρ)} {s : σ} {r : ρ}

theorem firstAnswer_cons_answers (h : (stage s).2 = some r) :
    firstAnswer (stage :: stages) s = ((stage s).1, some r) := by
  rcases hs : stage s with ⟨s', a⟩
  rw [hs] at h
  cases h
  simp only [firstAnswer, hs]

theorem firstAnswer_cons_passes (h : (stage s).2 = none) :
    firstAnswer (stage :: stages) s = firstAnswer stages (stage s).1 := by
  rcases hs : stage s with ⟨s', a⟩
  rw [hs] at h
  cases h
  simp only [firstAnswer, hs]

theorem firstAnswer_preserves {P : σ → Prop} (hstages : ∀ stage ∈ stages, ∀ s, P s → P (stage s).1)
    (hs : P s) : P (firstAnswer stages s).1 := by
  induction stages generalizing s with
  | nil => exact hs
  | cons stage stages ih =>
    have hstage := hstages stage List.mem_cons_self s hs
    cases h : (stage s).2 with
    | some r =>
      rw [firstAnswer_cons_answers h]
      exact hstage
    | none =>
      rw [firstAnswer_cons_passes h]
      exact ih (fun other hother => hstages other (List.mem_cons_of_mem _ hother)) hstage

theorem answer_of_ite {c : Prop} [Decidable c] {x y : σ × Option ρ}
    (h : (if c then x else y).2 = some r) : x.2 = some r ∨ y.2 = some r := by
  by_cases hc : c
  · rw [if_pos hc] at h
    exact .inl h
  · rw [if_neg hc] at h
    exact .inr h

/-! ## Parts of the state -/

/-- The part that `get` finds serves the request if it is `mine`, and `set` puts it back. -/
def delegate (get : σ → Option α) (set : σ → Option α → σ) (mine : Bool) (handle : α → α × Option ρ) :
    Stage σ ρ := fun s =>
  match get s with
  | none => (s, none)
  | some part => if mine then (set s (some (handle part).1), (handle part).2) else (s, none)

variable {get : σ → Option α} {set : σ → Option α → σ} {mine : Bool} {handle : α → α × Option ρ}

theorem delegate_keeps {β : Type*} {f : σ → β} (hset : ∀ s part, f (set s part) = f s) :
    f (delegate get set mine handle s).1 = f s := by
  unfold delegate
  cases get s with
  | none => rfl
  | some part =>
    cases mine with
    | false => rfl
    | true => exact hset s _

theorem delegate_answer (h : (delegate get set mine handle s).2 = some r) :
    ∃ part, get s = some part ∧ (handle part).2 = some r := by
  unfold delegate at h
  cases hget : get s with
  | none =>
    rw [hget] at h
    cases h
  | some part =>
    rw [hget] at h
    cases mine with
    | false => cases h
    | true => exact ⟨part, rfl, h⟩

end Dispatch
