import Mathlib.Data.List.Basic
import Mathlib.Data.List.TakeWhile

/-!
# Properties of a history

A history is a list of events, latest first. `Since p q h` is the past-time "since" operator: some
event of `h` satisfies `q`, and every later event satisfies `p`. A flag of a state machine that is
set by `q` events, survives `p` events and is dropped by all others holds exactly when `Since p q`
does, so the operator is what ties a latch to the inputs that put it there.
-/

namespace PastTime

universe u

variable {ε : Type u} {p p' q q' : ε → Prop} {e : ε} {h : List ε}

/-- Some past event satisfied `q`, and all events after it satisfied `p`. -/
def Since (p q : ε → Prop) : List ε → Prop
  | [] => False
  | e :: h => q e ∨ p e ∧ Since p q h

/-- Some past event satisfied `q`. -/
def Once (q : ε → Prop) (h : List ε) : Prop := ∃ e ∈ h, q e

@[simp] theorem since_nil : ¬ Since p q ([] : List ε) := id

theorem since_cons : Since p q (e :: h) ↔ q e ∨ p e ∧ Since p q h := Iff.rfl

/-- The event satisfies `q` itself. -/
theorem Since.now (hq : q e) : Since p q (e :: h) := Or.inl hq

theorem Since.keep (hp : p e) (hs : Since p q h) : Since p q (e :: h) := Or.inr ⟨hp, hs⟩

/-- `Since` spelled out: the history splits at a `q` event below which only `p` events follow. -/
theorem since_iff : Since p q h ↔ ∃ later e earlier, h = later ++ e :: earlier ∧ q e ∧
    ∀ x ∈ later, p x := by
  induction h with
  | nil => simp
  | cons a h ih =>
    rw [since_cons, ih]
    constructor
    · rintro (hq | ⟨hp, later, e, earlier, rfl, hq, hl⟩)
      · exact ⟨[], a, h, rfl, hq, by simp⟩
      · refine ⟨a :: later, e, earlier, rfl, hq, fun x hx => ?_⟩
        rcases List.mem_cons.mp hx with rfl | hx
        · exact hp
        · exact hl x hx
    · rintro ⟨later, e, earlier, heq, hq, hl⟩
      cases later with
      | nil =>
        obtain ⟨rfl, -⟩ := List.cons.inj heq
        exact Or.inl hq
      | cons b later =>
        obtain ⟨rfl, rfl⟩ := List.cons.inj heq
        exact Or.inr ⟨hl a (List.mem_cons_self ..),
          later, e, earlier, rfl, hq, fun x hx => hl x (List.mem_cons_of_mem _ hx)⟩

theorem Since.imp (hpp : ∀ e ∈ h, p e → p' e) (hqq : ∀ e ∈ h, q e → q' e) (hs : Since p q h) :
    Since p' q' h := by
  induction h with
  | nil => exact hs
  | cons a h ih =>
    rcases hs with hq | ⟨hp, hs⟩
    · exact .now (hqq a (List.mem_cons_self ..) hq)
    · exact .keep (hpp a (List.mem_cons_self ..) hp)
        (ih (fun e he => hpp e (List.mem_cons_of_mem _ he))
          (fun e he => hqq e (List.mem_cons_of_mem _ he)) hs)

theorem Since.before {r : ε → Prop} (hq : Since p q h) (hr : Since p r h) (hpr : ∀ e, p e → ¬ r e) :
    ∃ later e earlier, h = later ++ e :: earlier ∧ q e ∧ ∃ x ∈ e :: earlier, r x := by
  induction h with
  | nil => exact absurd hq since_nil
  | cons a h ih =>
    rcases hq with hq | ⟨hp, hq⟩
    · rcases hr with hr | ⟨-, hr⟩
      · exact ⟨[], a, h, rfl, hq, a, List.mem_cons_self .., hr⟩
      · obtain ⟨later, x, earlier, rfl, hx, -⟩ := since_iff.mp hr
        exact ⟨[], a, _, rfl, hq, x, by simp, hx⟩
    · obtain ⟨later, e, earlier, rfl, he, hx⟩ := ih hq (hr.resolve_left (hpr a hp)).2
      exact ⟨a :: later, e, earlier, rfl, he, hx⟩

theorem Since.and {r : ε → Prop} (hq : Since p q h) (hr : Since p r h) (hpq : ∀ e, p e → ¬ q e)
    (hpr : ∀ e, p e → ¬ r e) : Since p (fun e => q e ∧ r e) h := by
  induction h with
  | nil => exact absurd hq since_nil
  | cons a h ih =>
    rcases hq with hq | ⟨hp, hq⟩
    · have hnot : ¬ p a := fun hp => hpq a hp hq
      exact .now ⟨hq, hr.resolve_right fun hr => hnot hr.1⟩
    · exact .keep hp (ih hq (hr.resolve_left (hpr a hp)).2)

theorem Since.once (hs : Since p q h) : Once q h := by
  obtain ⟨later, e, earlier, rfl, hq, -⟩ := since_iff.mp hs
  exact ⟨e, by simp, hq⟩

instance Since.decidable [DecidablePred p] [DecidablePred q] : (h : List ε) → Decidable (Since p q h)
  | [] => isFalse since_nil
  | e :: h =>
    have := Since.decidable h
    inferInstanceAs (Decidable (q e ∨ p e ∧ Since p q h))

/-- Some past event satisfied `r`, and one before it satisfied `q`. -/
def OnceThen (q r : ε → Prop) (h : List ε) : Prop :=
  ∃ later e earlier, h = later ++ e :: earlier ∧ r e ∧ Once q earlier

variable {r : ε → Prop}

theorem Once.now (hq : q e) : Once q (e :: h) := ⟨e, List.mem_cons_self .., hq⟩

theorem Once.keep (ho : Once q h) : Once q (e :: h) := by
  obtain ⟨x, hx, hq⟩ := ho
  exact ⟨x, List.mem_cons_of_mem _ hx, hq⟩

theorem OnceThen.now (hr : r e) (ho : Once q h) : OnceThen q r (e :: h) := ⟨[], e, h, rfl, hr, ho⟩

theorem OnceThen.keep (ho : OnceThen q r h) : OnceThen q r (e :: h) := by
  obtain ⟨later, x, earlier, rfl, hr, hq⟩ := ho
  exact ⟨e :: later, x, earlier, rfl, hr, hq⟩

theorem once_cons : Once q (e :: h) ↔ q e ∨ Once q h := by
  unfold Once
  rw [List.exists_mem_cons_iff]

theorem onceThen_nil : ¬ OnceThen q r ([] : List ε) := by
  rintro ⟨later, e, earlier, heq, -, -⟩
  exact absurd heq (by simp)

theorem onceThen_cons : OnceThen q r (e :: h) ↔ r e ∧ Once q h ∨ OnceThen q r h := by
  constructor
  · rintro ⟨later, x, earlier, heq, hr, ho⟩
    cases later with
    | nil =>
      obtain ⟨rfl, rfl⟩ := List.cons.inj heq
      exact .inl ⟨hr, ho⟩
    | cons y later =>
      obtain ⟨rfl, rfl⟩ := List.cons.inj heq
      exact .inr ⟨later, x, earlier, rfl, hr, ho⟩
  · rintro (⟨hr, ho⟩ | ho)
    · exact .now hr ho
    · exact ho.keep

instance Once.decidable [DecidablePred q] (h : List ε) : Decidable (Once q h) :=
  inferInstanceAs (Decidable (∃ e ∈ h, q e))

instance OnceThen.decidable [DecidablePred q] [DecidablePred r] :
    (h : List ε) → Decidable (OnceThen q r h)
  | [] => isFalse onceThen_nil
  | e :: h =>
    have := OnceThen.decidable h
    decidable_of_iff (r e ∧ Once q h ∨ OnceThen q r h) onceThen_cons.symm

/-- There was an event satisfying `c`, and the latest of them satisfied `q`. -/
def Latest (c q : ε → Prop) : List ε → Prop := Since (fun e => ¬ c e) (fun e => c e ∧ q e)

variable {c : ε → Prop}

theorem latest_cons_of (hc : c e) : Latest c q (e :: h) ↔ q e := by
  simp [Latest, since_cons, hc]

theorem latest_cons_of_not (hc : ¬ c e) : Latest c q (e :: h) ↔ Latest c q h := by
  simp [Latest, since_cons, hc]

theorem Latest.imp (hqq : ∀ e ∈ h, c e → q e → q' e) (hl : Latest c q h) : Latest c q' h :=
  Since.imp (fun _ _ hn => hn) (fun e he hq => ⟨hq.1, hqq e he hq.1 hq.2⟩) hl

theorem Latest.and (hq : Latest c q h) (hq' : Latest c q' h) : Latest c (fun e => q e ∧ q' e) h := by
  induction h with
  | nil => exact hq
  | cons e h ih =>
    by_cases hc : c e
    · rw [latest_cons_of hc] at hq hq' ⊢
      exact ⟨hq, hq'⟩
    · rw [latest_cons_of_not hc] at hq hq' ⊢
      exact ih hq hq'

theorem Latest.or (hl : Latest c (fun e => q e ∨ q' e) h) : Latest c q h ∨ Latest c q' h := by
  induction h with
  | nil => exact .inl hl
  | cons e h ih =>
    by_cases hc : c e
    · rw [latest_cons_of hc] at hl ⊢
      rw [latest_cons_of hc]
      exact hl
    · rw [latest_cons_of_not hc] at hl ⊢
      rw [latest_cons_of_not hc]
      exact ih hl

/-- An event of one of several kinds has happened, and the latest such event was of one kind. -/
theorem exists_latest {ι : Type u} {k : ι → ε → Prop} (ho : Once (fun e => ∃ i, k i e) h) :
    ∃ i, Latest (fun e => ∃ i, k i e) (k i) h := by
  induction h with
  | nil =>
    obtain ⟨e, he, -⟩ := ho
    cases he
  | cons e h ih =>
    by_cases hkind : ∃ i, k i e
    · obtain ⟨i, hi⟩ := hkind
      exact ⟨i, (latest_cons_of (c := fun e => ∃ i, k i e) ⟨i, hi⟩).mpr hi⟩
    · obtain ⟨i, hi⟩ := ih ((once_cons.mp ho).resolve_left hkind)
      exact ⟨i, (latest_cons_of_not (c := fun e => ∃ i, k i e) hkind).mpr hi⟩

/-- The latest event of a kind satisfied `q`, and nothing since then satisfied `d`. -/
theorem latest_undisturbed_iff {d : ε → Prop} :
    Since (fun e => ¬ c e ∧ ¬ d e) (fun e => c e ∧ q e) h ↔
      Latest c q h ∧ Since (fun e => ¬ d e) c h := by
  induction h with
  | nil => exact ⟨fun hs => absurd hs since_nil, fun hs => absurd hs.1 since_nil⟩
  | cons e h ih =>
    by_cases hc : c e
    · rw [latest_cons_of hc, since_cons, since_cons]
      constructor
      · rintro (⟨-, hq⟩ | ⟨⟨hnot, -⟩, -⟩)
        · exact ⟨hq, .inl hc⟩
        · exact absurd hc hnot
      · rintro ⟨hq, -⟩
        exact .inl ⟨hc, hq⟩
    · rw [latest_cons_of_not hc, since_cons, since_cons, ih]
      constructor
      · rintro (⟨hc', -⟩ | ⟨⟨-, hd⟩, hlatest, hsince⟩)
        · exact absurd hc' hc
        · exact ⟨hlatest, .inr ⟨hd, hsince⟩⟩
      · rintro ⟨hlatest, hc' | ⟨hd, hsince⟩⟩
        · exact absurd hc' hc
        · exact .inr ⟨⟨hc, hd⟩, hlatest, hsince⟩

/-- The events satisfy `p` up to now without a break, and one of them satisfied `q` together with the
history before it. -/
def Within (p : ε → Prop) (q : ε → List ε → Prop) : List ε → Prop
  | [] => False
  | e :: h => p e ∧ (q e h ∨ Within p q h)

variable {s s' : ε → List ε → Prop}

theorem Within.now (hp : p e) (hs : s e h) : Within p s (e :: h) := ⟨hp, .inl hs⟩

theorem Within.keep (hp : p e) (hw : Within p s h) : Within p s (e :: h) := ⟨hp, .inr hw⟩

theorem within_iff : Within p s h ↔ ∃ later e earlier, h = later ++ e :: earlier ∧ s e earlier ∧
    ∀ x ∈ later ++ [e], p x := by
  induction h with
  | nil =>
    constructor
    · rintro ⟨⟩
    · rintro ⟨later, e, earlier, heq, -, -⟩
      exact absurd heq (by simp)
  | cons a h ih =>
    constructor
    · rintro ⟨hp, hs | hw⟩
      · exact ⟨[], a, h, rfl, hs, by simpa using hp⟩
      · obtain ⟨later, e, earlier, rfl, hs, hall⟩ := ih.mp hw
        refine ⟨a :: later, e, earlier, rfl, hs, fun x hx => ?_⟩
        rcases List.mem_cons.mp hx with rfl | hx
        · exact hp
        · exact hall x hx
    · rintro ⟨later, e, earlier, heq, hs, hall⟩
      cases later with
      | nil =>
        obtain ⟨rfl, rfl⟩ := List.cons.inj heq
        exact .now (hall a (by simp)) hs
      | cons b later =>
        obtain ⟨rfl, rfl⟩ := List.cons.inj heq
        refine .keep (hall a (List.mem_cons_self ..)) (ih.mpr ⟨later, e, earlier, rfl, hs, ?_⟩)
        exact fun x hx => hall x (List.mem_cons_of_mem _ hx)

theorem Within.imp (hss : ∀ e h, p e → s e h → s' e h) (hw : Within p s h) : Within p s' h := by
  induction h with
  | nil => exact hw
  | cons a h ih =>
    rcases hw with ⟨hp, hs | hw⟩
    · exact .now hp (hss a h hp hs)
    · exact .keep hp (ih hw)

/-- Every event satisfied `q` with what came before it. -/
def Historically (q : ε → List ε → Prop) : List ε → Prop
  | [] => True
  | e :: h => q e h ∧ Historically q h

theorem Historically.at {q : ε → List ε → Prop} {later earlier : List ε}
    (hall : Historically q (later ++ e :: earlier)) : q e earlier := by
  induction later with
  | nil => exact hall.1
  | cons a later ih => exact ih hall.2

theorem Historically.imp {q q' : ε → List ε → Prop} (hqq : ∀ e h, q e h → q' e h)
    (hall : Historically q h) : Historically q' h := by
  induction h with
  | nil => trivial
  | cons e h ih => exact ⟨hqq e h hall.1, ih hall.2⟩

instance Historically.decidable {q : ε → List ε → Prop} [∀ e h, Decidable (q e h)] :
    (h : List ε) → Decidable (Historically q h)
  | [] => isTrue trivial
  | e :: h =>
    have := Historically.decidable (q := q) h
    inferInstanceAs (Decidable (q e h ∧ Historically q h))

end PastTime

/-!
## Streaks

A history is a list of events, latest first. A counter that every event of a kind increments and every
other event sets to zero holds the length of the *streak*: the number of latest events, without a break,
that are of the kind. It reaches `n` exactly when `n` events in a row are.
-/

namespace PastTime

universe u

variable {ε : Type u} {p : ε → Prop} {n : ℕ} {e : ε} {h : List ε}

/-- The number of latest events that satisfy `p` without a break. -/
def streak (p : ε → Prop) [DecidablePred p] (h : List ε) : ℕ := (h.takeWhile (p ·)).length

/-- Some `n` events in a row satisfied `p`. -/
def InARow (n : ℕ) (p : ε → Prop) (h : List ε) : Prop :=
  ∃ later row earlier, h = later ++ row ++ earlier ∧ row.length = n ∧ ∀ e ∈ row, p e

theorem InARow.cons (hr : InARow n p h) : InARow n p (e :: h) := by
  obtain ⟨later, row, earlier, rfl, hlen, hall⟩ := hr
  exact ⟨e :: later, row, earlier, rfl, hlen, hall⟩

theorem not_inARow_nil (hn : 0 < n) : ¬ InARow n p ([] : List ε) := by
  rintro ⟨later, row, earlier, heq, rfl, -⟩
  obtain ⟨hfront, -⟩ := List.append_eq_nil_iff.mp heq.symm
  obtain ⟨-, rfl⟩ := List.append_eq_nil_iff.mp hfront
  cases hn

variable [DecidablePred p]

@[simp] theorem streak_nil : streak p [] = 0 := rfl

theorem streak_cons_of (hp : p e) : streak p (e :: h) = streak p h + 1 := by
  have hkeep : (e :: h).takeWhile (p ·) = e :: h.takeWhile (p ·) :=
    List.takeWhile_cons_of_pos (decide_eq_true hp)
  unfold streak
  rw [hkeep, List.length_cons]

theorem streak_cons_of_not (hp : ¬ p e) : streak p (e :: h) = 0 := by
  have hstop : (e :: h).takeWhile (p ·) = [] :=
    List.takeWhile_cons_of_neg (by simpa using hp)
  unfold streak
  rw [hstop, List.length_nil]

/-- The streak is at least `n` when the latest `n` events satisfy `p`. -/
theorem le_streak_iff :
    n ≤ streak p h ↔ ∃ row earlier, h = row ++ earlier ∧ row.length = n ∧ ∀ e ∈ row, p e := by
  constructor
  · intro hn
    refine ⟨(h.takeWhile (p ·)).take n, (h.takeWhile (p ·)).drop n ++ h.dropWhile (p ·), ?_, ?_, ?_⟩
    · rw [← List.append_assoc, List.take_append_drop, List.takeWhile_append_dropWhile]
    · rw [List.length_take]
      exact Nat.min_eq_left hn
    · intro e he
      have hp := List.mem_takeWhile_imp (List.mem_of_mem_take he)
      simpa using hp
  · rintro ⟨row, earlier, rfl, rfl, hall⟩
    unfold streak
    rw [List.takeWhile_append_of_pos (fun e he => decide_eq_true (hall e he)), List.length_append]
    exact Nat.le_add_right _ _

/-- A row in a longer history ends with the latest event or was there before. -/
theorem inARow_cons : InARow n p (e :: h) ↔ n ≤ streak p (e :: h) ∨ InARow n p h := by
  rw [le_streak_iff]
  constructor
  · rintro ⟨later, row, earlier, heq, hlen, hall⟩
    cases later with
    | nil => exact .inl ⟨row, earlier, heq, hlen, hall⟩
    | cons a later =>
      obtain ⟨rfl, rfl⟩ := List.cons.inj heq
      exact .inr ⟨later, row, earlier, rfl, hlen, hall⟩
  · rintro (⟨row, earlier, heq, hlen, hall⟩ | ⟨later, row, earlier, rfl, hlen, hall⟩)
    · exact ⟨[], row, earlier, heq, hlen, hall⟩
    · exact ⟨e :: later, row, earlier, rfl, hlen, hall⟩

end PastTime
