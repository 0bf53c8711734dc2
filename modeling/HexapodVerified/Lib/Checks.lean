import Mathlib.Data.Finset.Card

/-!
# Validation that collects messages

A validator appends a message for every check that fails, so that what it accepts is what leaves the list
of messages empty. A loop over records may remember the keys that it met; `Fresh` says that no key comes
twice.
-/

namespace Checks

universe u v

variable {α : Type u} {κ : Type v}

def errorIf (p : Prop) [Decidable p] (message : String) : List String := if p then [message] else []

@[simp] theorem errorIf_eq_nil {p : Prop} {_ : Decidable p} {message : String} :
    errorIf p message = [] ↔ ¬p := by
  unfold errorIf
  by_cases hp : p
  · rw [if_pos hp]
    exact iff_of_false (List.cons_ne_nil message []) (not_not.mpr hp)
  · rw [if_neg hp]
    exact iff_of_true rfl hp

/-- One message for each named value that is out of bounds. -/
def rangeErrors (lo hi : Int) (message : String → String) (values : List (String × Int)) :
    List String :=
  values.flatMap fun value => errorIf (¬ (lo ≤ value.2 ∧ value.2 ≤ hi)) (message value.1)

@[simp] theorem rangeErrors_eq_nil {lo hi : Int} {message : String → String}
    {values : List (String × Int)} :
    rangeErrors lo hi message values = [] ↔ ∀ value ∈ values, lo ≤ value.2 ∧ value.2 ≤ hi := by
  unfold rangeErrors
  rw [List.flatMap_eq_nil_iff]
  simp only [errorIf_eq_nil, not_not]

/-- A loop over the records with their indices. -/
def enumErrors (errors : Nat → α → List String) (index : Nat) : List α → List String
  | [] => []
  | a :: rest => errors index a ++ enumErrors errors (index + 1) rest

theorem enumErrors_eq_nil {errors : Nat → α → List String} {index : Nat}
    (h : ∀ index a, errors index a = [] ↔ errors 0 a = []) {l : List α} :
    enumErrors errors index l = [] ↔ ∀ a ∈ l, errors 0 a = [] := by
  induction l generalizing index with
  | nil => exact iff_of_true rfl nofun
  | cons a rest ih =>
    rw [enumErrors, List.append_eq_nil_iff, h, ih, List.forall_mem_cons]

/-! ## Keys that were met -/

/-- No key of the list was met before, and none comes twice. -/
def Fresh (key : α → κ) (seen : Finset κ) (l : List α) : Prop :=
  (l.map key).Nodup ∧ ∀ a ∈ l, key a ∉ seen

variable {key : α → κ} {seen : Finset κ} {a : α} {l : List α}

theorem fresh_nil : Fresh key seen [] := ⟨List.nodup_nil, nofun⟩

theorem fresh_empty : Fresh key ∅ l ↔ (l.map key).Nodup :=
  and_iff_left fun _ _ => Finset.notMem_empty _

theorem fresh_cons [DecidableEq κ] :
    Fresh key seen (a :: l) ↔ key a ∉ seen ∧ Fresh key (insert (key a) seen) l := by
  unfold Fresh
  rw [List.map_cons, List.nodup_cons, List.forall_mem_cons]
  constructor
  · rintro ⟨⟨hnew, hl⟩, ha, hseen⟩
    refine ⟨ha, hl, fun b hb hmem => ?_⟩
    rcases Finset.mem_insert.mp hmem with heq | hmem
    · exact hnew (heq ▸ List.mem_map_of_mem hb)
    · exact hseen b hb hmem
  · rintro ⟨ha, hl, hseen⟩
    refine ⟨⟨fun hmem => ?_, hl⟩, ha, fun b hb hmem => ?_⟩
    · obtain ⟨b, hb, heq⟩ := List.mem_map.mp hmem
      exact hseen b hb (Finset.mem_insert.mpr (.inl heq))
    · exact hseen b hb (Finset.mem_insert_of_mem hmem)

theorem nodup_map_comp {μ : Type*} {f : κ → μ} (hf : Function.Injective f) :
    (l.map fun a => f (key a)).Nodup ↔ (l.map key).Nodup := by
  rw [show (l.map fun a => f (key a)) = (l.map key).map f from (List.map_map ..).symm]
  exact List.nodup_map_iff hf

theorem toFinset_eq_of_nodup [DecidableEq κ] {keys : List κ} {possible : Finset κ}
    (hnodup : keys.Nodup) (hmem : ∀ k ∈ keys, k ∈ possible) (hcard : possible.card ≤ keys.length) :
    keys.toFinset = possible := by
  refine Finset.eq_of_subset_of_card_le (fun k hk => hmem k (List.mem_toFinset.mp hk)) ?_
  rwa [List.toFinset_card_of_nodup hnodup]

end Checks
