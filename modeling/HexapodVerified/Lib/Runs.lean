import Mathlib.Data.List.Basic

/-!
# Runs of a labelled transition system

A system is a relation `R s i t`: in state `s` the step labelled `i` leads to `t`. A *run* from
`s₀` is recorded by its history, the list of the steps taken so far with the latest step first.
Keeping the whole event (state before, label, state after) in the history lets a property of a run
talk about what was true when an earlier step was taken.
-/

namespace Transition

universe u v w

variable {σ : Type u} {ι : Type v}

structure Event (σ : Type u) (ι : Type v) where
  /-- The state in which the step was taken. -/
  pre : σ
  /-- The label of the step. -/
  label : ι
  /-- The state the step led to. -/
  post : σ

/-- `Run R s₀ h s`: from `s₀` the steps of the history `h` (latest first) lead to `s`. -/
inductive Run (R : σ → ι → σ → Prop) (s₀ : σ) : List (Event σ ι) → σ → Prop where
  | nil : Run R s₀ [] s₀
  | step {h : List (Event σ ι)} {s t : σ} {i : ι} (run : Run R s₀ h s) (hstep : R s i t) :
      Run R s₀ (⟨s, i, t⟩ :: h) t

variable {R : σ → ι → σ → Prop} {s₀ s t : σ} {h h₁ h₂ : List (Event σ ι)}

theorem Run.history_invariant (J : List (Event σ ι) → σ → Prop) (hinit : J [] s₀)
    (hstep : ∀ h s i t, Run R s₀ h s → J h s → R s i t → J (⟨s, i, t⟩ :: h) t)
    (run : Run R s₀ h s) : J h s := by
  induction run with
  | nil => exact hinit
  | step run hst ih => exact hstep _ _ _ _ run ih hst

theorem Run.invariant (I : σ → Prop) (hinit : I s₀)
    (hstep : ∀ s i t, I s → R s i t → I t) (run : Run R s₀ h s) : I s :=
  run.history_invariant (fun _ s => I s) hinit (fun _ s i t _ hI hR => hstep s i t hI hR)

/-- The latest event of a run ends in the state reached, is a step of the system, and continues a
run to the state it was taken in. -/
theorem Run.of_cons {e : Event σ ι} (run : Run R s₀ (e :: h) s) :
    e.post = s ∧ R e.pre e.label e.post ∧ Run R s₀ h e.pre := by
  cases run with
  | step run hst => exact ⟨rfl, hst, run⟩

theorem Run.of_append (run : Run R s₀ (h₁ ++ h₂) s) : ∃ m, Run R s₀ h₂ m := by
  induction h₁ generalizing s with
  | nil => exact ⟨s, run⟩
  | cons e h₁ ih => exact ih run.of_cons.2.2

theorem Run.of_mem {e : Event σ ι} (run : Run R s₀ h s) (he : e ∈ h) :
    R e.pre e.label e.post ∧ ∃ h', Run R s₀ h' e.pre := by
  obtain ⟨h₁, h₂, rfl⟩ := List.append_of_mem he
  obtain ⟨m, hm⟩ := run.of_append
  exact ⟨hm.of_cons.2.1, h₂, hm.of_cons.2.2⟩

/-- What holds after the first part `h₂` of a run, and is kept by the steps that satisfy `P`, holds to the
end of a second part `h₁` of such steps, each of which shows `Q`. -/
theorem Run.resume {P : Event σ ι → List (Event σ ι) → Prop} {Q : Event σ ι → Prop}
    (J : List (Event σ ι) → σ → Prop) (hfirst : ∀ m, Run R s₀ h₂ m → J h₂ m)
    (hstep : ∀ h e, Run R s₀ h e.pre → R e.pre e.label e.post → J h e.pre → P e h →
      J (e :: h) e.post ∧ Q e)
    (run : Run R s₀ (h₁ ++ h₂) s) (hP : ∀ later e earlier, h₁ = later ++ e :: earlier →
      P e (earlier ++ h₂)) : J (h₁ ++ h₂) s ∧ ∀ e ∈ h₁, Q e := by
  induction h₁ generalizing s with
  | nil => exact ⟨hfirst s run, nofun⟩
  | cons e h₁ ih =>
    obtain ⟨rfl, hR, hrun⟩ := run.of_cons
    obtain ⟨hJ, hQ⟩ := ih hrun fun later x earlier heq => hP (e :: later) x earlier (by rw [heq]; rfl)
    obtain ⟨hJ', hQe⟩ := hstep _ _ hrun hR hJ (hP [] e h₁ rfl)
    refine ⟨hJ', fun x hx => ?_⟩
    rcases List.mem_cons.mp hx with rfl | hx
    · exact hQe
    · exact hQ x hx

/-- `P` held in every state of a run, the one it has reached included. -/
def Throughout (P : σ → Prop) (h : List (Event σ ι)) (s : σ) : Prop := P s ∧ ∀ e ∈ h, P e.pre

theorem throughout_cons {P : σ → Prop} {e : Event σ ι} :
    Throughout P (e :: h) s ↔ P s ∧ Throughout P h e.pre := by
  unfold Throughout
  rw [List.forall_mem_cons]

/-- A state property that a step keeps exactly when `Q` is true of it holds in every state of a run
exactly when `Q` is true of all steps. -/
theorem Run.throughout_iff {P : σ → Prop} {Q : Event σ ι → Prop} (hinit : P s₀)
    (hstep : ∀ h e, Run R s₀ h e.pre → R e.pre e.label e.post → P e.pre → (P e.post ↔ Q e))
    (run : Run R s₀ h s) : Throughout P h s ↔ ∀ e ∈ h, Q e := by
  induction run with
  | nil => exact ⟨nofun, fun _ => ⟨hinit, nofun⟩⟩
  | step run hst ih =>
    rw [throughout_cons, List.forall_mem_cons, ih]
    refine and_congr_left fun hQ => ?_
    exact hstep _ ⟨_, _, _⟩ run hst (ih.mpr hQ).1

/-! ## Simulation -/

section Simulation

variable {τ : Type w} {κ : Type*} {view : σ → τ} {name : ι → κ}

/-- The event as it is seen through a view of the states and other names of the labels. -/
def Event.map (view : σ → τ) (name : ι → κ) (e : Event σ ι) : Event τ κ := ⟨view e.pre, name e.label, view e.post⟩

theorem Run.map {R' : τ → κ → τ → Prop} (hstep : ∀ s i t, R s i t → R' (view s) (name i) (view t))
    (run : Run R s₀ h s) : Run R' (view s₀) (h.map (Event.map view name)) (view s) := by
  induction run with
  | nil => exact .nil
  | step run hst ih => exact ih.step (hstep _ _ _ hst)

end Simulation

/-! ## Deterministic systems -/

def Deterministic (step : σ → ι → σ) : σ → ι → σ → Prop := fun s i t => t = step s i

/-- The transition relation of a deterministic machine with outputs; the label of a step is the
input together with the output it produced. -/
def WithOutput {ω : Type w} (step : σ → ι → σ × ω) : σ → ι × ω → σ → Prop :=
  fun s io t => step s io.1 = (t, io.2)

theorem Run.input {ω : Type w} {step : σ → ι → σ × ω} {h : List (Event σ (ι × ω))}
    (run : Run (WithOutput step) s₀ h s) (i : ι) :
    Run (WithOutput step) s₀ (⟨s, (i, (step s i).2), (step s i).1⟩ :: h) (step s i).1 :=
  run.step rfl

/-- The state a deterministic machine reaches on a list of inputs (first input first). -/
def execute (step : σ → ι → σ) (s : σ) (is : List ι) : σ := is.foldl step s

/-- The history a deterministic machine records on a list of inputs, added to `h`. -/
def executeHistory (step : σ → ι → σ) : σ → List (Event σ ι) → List ι → List (Event σ ι)
  | _, h, [] => h
  | s, h, i :: is => executeHistory step (step s i) (⟨s, i, step s i⟩ :: h) is

theorem run_execute (step : σ → ι → σ) (is : List ι)
    (run : Run (Deterministic step) s₀ h s) :
    Run (Deterministic step) s₀ (executeHistory step s h is) (execute step s is) := by
  induction is generalizing s h with
  | nil => exact run
  | cons i is ih => exact ih (run.step rfl)

/-- The state a deterministic machine with outputs reaches on a list of inputs, and the history it
records on the way, added to `h`. -/
def record {ω : Type w} (step : σ → ι → σ × ω) :
    σ → List (Event σ (ι × ω)) → List ι → σ × List (Event σ (ι × ω))
  | s, h, [] => (s, h)
  | s, h, i :: is => record step (step s i).1 (⟨s, (i, (step s i).2), (step s i).1⟩ :: h) is

theorem run_record {ω : Type w} (step : σ → ι → σ × ω) (is : List ι)
    {h : List (Event σ (ι × ω))} (run : Run (WithOutput step) s₀ h s) :
    Run (WithOutput step) s₀ (record step s h is).2 (record step s h is).1 := by
  induction is generalizing s h with
  | nil => exact run
  | cons i is ih => exact ih (run.input i)

theorem record_append {ω : Type w} (step : σ → ι → σ × ω) (is : List ι) (s : σ)
    (h : List (Event σ (ι × ω))) :
    record step s h is = ((record step s [] is).1, (record step s [] is).2 ++ h) := by
  induction is generalizing s h with
  | nil => rfl
  | cons i is ih =>
    have hcons := ih (step s i).1 (⟨s, (i, (step s i).2), (step s i).1⟩ :: h)
    have hnil := ih (step s i).1 [⟨s, (i, (step s i).2), (step s i).1⟩]
    unfold record
    rw [hcons, hnil, List.append_assoc, List.singleton_append]

theorem mem_record {ω : Type w} {step : σ → ι → σ × ω} {is : List ι} {s : σ}
    {e : Event σ (ι × ω)} (he : e ∈ (record step s [] is).2) : e.label.1 ∈ is := by
  induction is generalizing s with
  | nil => cases he
  | cons i is ih =>
    unfold record at he
    rw [record_append] at he
    rcases List.mem_append.mp he with hlater | hfirst
    · exact List.mem_cons_of_mem _ (ih hlater)
    · rw [List.mem_singleton.mp hfirst]
      exact List.mem_cons_self ..

/-! ## Machines with guards -/

/-- The transition relation of a machine whose steps are guarded: an action that is not enabled has
no step. -/
def Guarded (step : σ → ι → Option σ) : σ → ι → σ → Prop := fun s i t => step s i = some t

/-- The state and the history of a list of actions that are all enabled, added to `h`. -/
def replay (step : σ → ι → Option σ) :
    σ → List (Event σ ι) → List ι → Option (σ × List (Event σ ι))
  | s, h, [] => some (s, h)
  | s, h, i :: is =>
    match step s i with
    | none => none
    | some t => replay step t (⟨s, i, t⟩ :: h) is

theorem run_replay {step : σ → ι → Option σ} (is : List ι) {out : σ × List (Event σ ι)}
    (run : Run (Guarded step) s₀ h s) (hreplay : replay step s h is = some out) :
    Run (Guarded step) s₀ out.2 out.1 := by
  induction is generalizing s h with
  | nil =>
    cases hreplay
    exact run
  | cons i is ih =>
    unfold replay at hreplay
    cases hstep : step s i with
    | none =>
      rw [hstep] at hreplay
      cases hreplay
    | some t =>
      rw [hstep] at hreplay
      exact ih (run.step hstep) hreplay

/-! ## Stores that are cut off -/

section Stores

variable {ρ : Type u} {φ : Type v}

/-- The first `n` of the stores are made, in their order. -/
def cutOff (stores : List (ρ → ρ)) (n : Nat) (r : ρ) : ρ := (stores.take n).foldl (fun r store => store r) r

theorem foldl_broken {Sealed : ρ → Prop} {stores : List (ρ → ρ)}
    (hkeep : ∀ store ∈ stores, ∀ r, Sealed (store r) → Sealed r) {r : ρ} (hr : ¬ Sealed r) :
    ¬ Sealed (stores.foldl (fun r store => store r) r) := by
  induction stores generalizing r with
  | nil => exact hr
  | cons store stores ih =>
    obtain ⟨hstore, hkeep⟩ := List.forall_mem_cons.mp hkeep
    exact ih hkeep (mt (hstore r) hr)

/-- A seal that the first store breaks and only the last one sets is broken in between. -/
theorem cutOff_broken (Sealed : ρ → Prop) {first last : ρ → ρ} {stores : List (ρ → ρ)}
    (hfirst : ∀ r, ¬ Sealed (first r)) (hkeep : ∀ store ∈ stores, ∀ r, Sealed (store r) → Sealed r) {n : Nat}
    (hpos : n ≠ 0) (hn : n < (first :: (stores ++ [last])).length) (r : ρ) :
    ¬ Sealed (cutOff (first :: (stores ++ [last])) n r) := by
  obtain ⟨k, rfl⟩ := Nat.exists_eq_succ_of_ne_zero hpos
  have hk : k ≤ stores.length := by
    rw [List.length_cons, List.length_append, List.length_singleton] at hn
    omega
  unfold cutOff
  rw [List.take_succ_cons, List.foldl_cons, List.take_append_of_le_length hk]
  exact foldl_broken (fun store hmem => hkeep store (List.mem_of_mem_take hmem)) (hfirst r)

/-- Stores to one part of a record are the stores to this part. -/
theorem foldl_part (update : (φ → φ) → ρ → ρ) (hid : ∀ r, update id r = r)
    (hcomp : ∀ f g r, update g (update f r) = update (g ∘ f) r) (fs : List (φ → φ)) (r : ρ) :
    (fs.map update).foldl (fun r store => store r) r = update (fun x => fs.foldl (fun x f => f x) x) r := by
  induction fs generalizing r with
  | nil => exact (hid r).symm
  | cons f fs ih =>
    rw [List.map_cons, List.foldl_cons, ih, hcomp]
    rfl

end Stores

end Transition
