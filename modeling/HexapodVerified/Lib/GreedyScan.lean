import Mathlib.Data.List.Basic

/-!
# Greedy scans

A scan looks for items in a text from its front: an item that is recognised is taken with its whole length,
where none is recognised one element is skipped. When what is recognised depends on nothing behind it, a scan
that comes to a point of the text finds the items of the two parts, so that cutting an item out or appending
one changes no other.
-/

namespace GreedyScan

variable {α ρ : Type*}

/-- What is recognised at the front of a text, with its length. Nothing behind that length matters. -/
structure Recognizer (α ρ : Type*) where
  accept : List α → Option (ρ × ℕ)
  length_pos : ∀ {text item n}, accept text = some (item, n) → 0 < n
  length_le : ∀ {text item n}, accept text = some (item, n) → n ≤ text.length
  append_iff : ∀ {text item n} (rest : List α), n ≤ text.length →
    (accept (text ++ rest) = some (item, n) ↔ accept text = some (item, n))

variable (R : Recognizer α ρ) {text a b m : List α} {item : ρ} {n point : ℕ}

/-- The items of a text, each with its place, counted from `place`. -/
def scan (place : ℕ) : List α → List (ℕ × ρ)
  | [] => []
  | x :: text =>
    match R.accept (x :: text) with
    | none => scan (place + 1) text
    | some (item, n) => (place, item) :: scan (place + n) (text.drop (n - 1))
termination_by text => text.length
decreasing_by
  · exact Nat.lt_succ_self _
  · rw [List.length_drop, List.length_cons]
    omega

theorem scan_nil (place : ℕ) : scan R place [] = [] := by
  unfold scan
  rfl

variable {R}

theorem scan_of_none {x : α} (h : R.accept (x :: text) = none) (place : ℕ) :
    scan R place (x :: text) = scan R (place + 1) text := by
  conv_lhs => unfold scan
  rw [h]

theorem scan_of_some (h : R.accept text = some (item, n)) (place : ℕ) :
    scan R place text = (place, item) :: scan R (place + n) (text.drop n) := by
  have hpos := R.length_pos h
  have hle := R.length_le h
  cases text with
  | nil => exact absurd hle (Nat.not_le.mpr hpos)
  | cons x text =>
    obtain ⟨n, rfl⟩ := Nat.exists_eq_succ_of_ne_zero (Nat.pos_iff_ne_zero.mp hpos)
    conv_lhs => unfold scan
    rw [h]
    rfl

/-- The places only say where the text begins. -/
theorem scan_add (R : Recognizer α ρ) (place shift : ℕ) (text : List α) :
    scan R (place + shift) text = (scan R place text).map fun found => (found.1 + shift, found.2) := by
  match text with
  | [] =>
    rw [scan_nil, scan_nil]
    rfl
  | x :: text =>
    cases h : R.accept (x :: text) with
    | none =>
      rw [scan_of_none h, scan_of_none h, Nat.add_right_comm, scan_add R (place + 1) shift text]
    | some found =>
      obtain ⟨item, n⟩ := found
      have hpos := R.length_pos h
      have hle := R.length_le h
      rw [scan_of_some h, scan_of_some h, Nat.add_right_comm, scan_add R (place + n) shift]
      rfl
termination_by text.length
decreasing_by
  · exact Nat.lt_succ_self _
  · rw [List.length_drop]
    omega

/-! ## Where a scan comes to -/

inductive Comes (R : Recognizer α ρ) : List α → ℕ → Prop where
  | here (text : List α) : Comes R text 0
  | skip {x : α} {text : List α} {point : ℕ} (hnone : R.accept (x :: text) = none) (hrest : Comes R text point) :
      Comes R (x :: text) (point + 1)
  | take {text : List α} {item : ρ} {n point : ℕ} (hsome : R.accept text = some (item, n))
      (hrest : Comes R (text.drop n) point) : Comes R text (n + point)

theorem Comes.scan_append (h : Comes R text point) (htext : text = a ++ b) (hpoint : point = a.length) (place : ℕ) :
    scan R place (a ++ b) = scan R place a ++ scan R (place + a.length) b := by
  induction h generalizing a place with
  | here =>
    rw [List.eq_nil_of_length_eq_zero hpoint.symm, scan_nil]
    rfl
  | @skip x text point hnone hrest ih =>
    cases a with
    | nil => cases hpoint
    | cons y a =>
      rw [List.cons_append] at htext
      obtain ⟨rfl, rfl⟩ := List.cons.inj htext
      have hfirst : R.accept (x :: a) = none := by
        rw [Option.eq_none_iff_forall_ne_some]
        rintro ⟨item, n⟩ hsome
        have hwhole := (R.append_iff b (R.length_le hsome)).mpr hsome
        rw [List.cons_append, hnone] at hwhole
        cases hwhole
      rw [List.cons_append, scan_of_none hnone, scan_of_none hfirst, ih rfl (Nat.succ.inj hpoint),
        List.length_cons, Nat.add_assoc, Nat.add_comm 1]
  | @take text item n point hsome hrest ih =>
    subst htext
    have hle : n ≤ a.length := hpoint ▸ Nat.le_add_right n point
    have hfirst : R.accept a = some (item, n) := (R.append_iff b hle).mp hsome
    have hlen : point = (a.drop n).length := by
      rw [List.length_drop]
      omega
    have hdrop : (a ++ b).drop n = a.drop n ++ b := List.drop_append_of_le_length hle
    rw [scan_of_some hsome, scan_of_some hfirst, hdrop, ih hdrop hlen, ← hlen, List.cons_append, hpoint.symm,
      Nat.add_assoc]

/-- No item that is recognised goes across the end of the first part. -/
def Clear (R : Recognizer α ρ) (a b : List α) : Prop :=
  ∀ i < a.length, ∀ item n, R.accept ((a ++ b).drop i) = some (item, n) → i + n ≤ a.length

theorem Clear.drop (h : Clear R a b) {i : ℕ} (hi : i ≤ a.length) : Clear R (a.drop i) b := by
  intro j hj item n hsome
  rw [List.length_drop] at hj ⊢
  rw [← List.drop_append_of_le_length hi, List.drop_drop] at hsome
  have hle := h (i + j) (by omega) item n hsome
  omega

theorem Clear.comes (a : List α) (h : Clear R a b) : Comes R (a ++ b) a.length := by
  match a with
  | [] => exact .here b
  | x :: a =>
    cases haccept : R.accept (x :: a ++ b) with
    | none => exact .skip haccept (Clear.comes a (h.drop (Nat.le_add_left 1 a.length)))
    | some found =>
      obtain ⟨item, n⟩ := found
      have hpos := R.length_pos haccept
      have hle := h 0 (Nat.succ_pos _) item n haccept
      rw [Nat.zero_add] at hle
      have hrest := Clear.comes _ (h.drop hle)
      rw [← List.drop_append_of_le_length hle, List.length_drop] at hrest
      have hcomes := Comes.take haccept hrest
      rwa [Nat.add_sub_cancel' hle] at hcomes
termination_by a.length
decreasing_by
  · exact Nat.lt_succ_self _
  · rw [List.length_drop]
    omega

theorem Clear.scan_append (h : Clear R a b) (place : ℕ) :
    scan R place (a ++ b) = scan R place a ++ scan R (place + a.length) b :=
  (Clear.comes a h).scan_append rfl rfl place

/-! ## Edits -/

theorem scan_append_item (h : Clear R a m) (hitem : R.accept m = some (item, m.length)) :
    scan R 0 (a ++ m) = scan R 0 a ++ [(a.length, item)] := by
  rw [h.scan_append, scan_of_some hitem, List.drop_length, scan_nil, Nat.zero_add]

/-- Without an item that the scan finds, the others are found, those behind it nearer by its length. -/
theorem scan_cut (hcomes : Comes R (a ++ (m ++ b)) a.length) (hitem : R.accept (m ++ b) = some (item, m.length))
    (hclear : Clear R a b) :
    scan R 0 (a ++ (m ++ b)) = scan R 0 a ++ (a.length, item) :: scan R (a.length + m.length) b ∧
      scan R 0 (a ++ b) = scan R 0 a ++ scan R a.length b := by
  constructor
  · rw [hcomes.scan_append rfl rfl, scan_of_some hitem, List.drop_left, Nat.zero_add]
  · rw [hclear.scan_append, Nat.zero_add]

end GreedyScan
