import Mathlib.Data.Fintype.Card
import Mathlib.Data.List.MinMax
import Mathlib.Data.Prod.Lex
import Mathlib.Order.Fin.Basic

/-!
# Fixed tables

A table of fixed size is a vector indexed by `Fin n`. `pick` is the loop that looks for the best entry:
it passes over the entries that are not eligible and keeps the best one seen so far, so of equally good
entries the first stays.
-/

namespace Tables

universe u v

/-! ## Entries -/

theorem get_set {α : Type u} {n : Nat} (table : Vector α n) (i k : Fin n) (x : α) :
    (table.setIfInBounds i.val x).get k = if i = k then x else table.get k := by
  by_cases heq : i = k
  · subst heq
    rw [if_pos rfl]
    exact Vector.getElem_setIfInBounds_self i.isLt
  · rw [if_neg heq]
    exact Vector.getElem_setIfInBounds_ne k.isLt fun hval => heq (Fin.ext hval)

theorem get_set_self {α : Type u} {n : Nat} (table : Vector α n) (i : Fin n) (x : α) :
    (table.setIfInBounds i.val x).get i = x := (get_set table i i x).trans (if_pos rfl)

theorem get_set_ne {α : Type u} {n : Nat} (table : Vector α n) {i k : Fin n} (hne : k ≠ i) (x : α) :
    (table.setIfInBounds i.val x).get k = table.get k :=
  (get_set table i k x).trans (if_neg fun heq => hne heq.symm)

theorem get_ofFn {α : Type u} {n : Nat} (f : Fin n → α) (i : Fin n) : (Vector.ofFn f).get i = f i :=
  Vector.getElem_ofFn i.isLt

theorem getD_set {α : Type u} {n : Nat} (table : Vector α n) (i k : Nat) (x d : α) :
    (table.setIfInBounds i x).getD k d = if i = k ∧ i < n then x else table.getD k d := by
  by_cases hik : i = k
  · subst hik
    by_cases hi : i < n
    · simp [Vector.getD, hi]
    · simp [Vector.getD, hi]
  · simp [Vector.getD, hik]

/-! ## Flags -/

section Flags

variable {n : Nat} {flags : Vector Bool n} {i k : Fin n}

def flagged (flags : Vector Bool n) : Finset (Fin n) :=
  Finset.univ.filter fun i => flags.get i = true

@[simp] theorem mem_flagged : i ∈ flagged flags ↔ flags.get i = true := by
  simp [flagged]

theorem flagged_set (flags : Vector Bool n) (i : Fin n) : flagged (flags.setIfInBounds i.val true) =
    insert i (flagged flags) := by
  ext k
  rw [mem_flagged, Finset.mem_insert, mem_flagged, get_set]
  by_cases heq : i = k
  · simp [heq]
  · simp [heq, Ne.symm heq]

theorem flagged_clear (flags : Vector Bool n) (i : Fin n) :
    flagged (flags.setIfInBounds i.val false) = (flagged flags).erase i := by
  ext k
  rw [mem_flagged, Finset.mem_erase, mem_flagged, get_set]
  by_cases heq : i = k
  · simp [heq]
  · simp [heq, Ne.symm heq]

theorem card_flagged_set (flags : Vector Bool n) (i : Fin n) :
    (flagged (flags.setIfInBounds i.val true)).card =
      if !flags.get i then (flagged flags).card + 1 else (flagged flags).card := by
  rw [flagged_set]
  cases hflag : flags.get i with
  | false =>
    have hnot : i ∉ flagged flags := fun hmem => by
      rw [mem_flagged, hflag] at hmem
      cases hmem
    exact Finset.card_insert_of_notMem hnot
  | true => exact congrArg Finset.card (Finset.insert_eq_of_mem (mem_flagged.mpr hflag))

theorem card_flagged_clear (hflag : flags.get i = true) :
    (flagged (flags.setIfInBounds i.val false)).card = (flagged flags).card - 1 := by
  rw [flagged_clear]
  exact Finset.card_erase_of_mem (mem_flagged.mpr hflag)

theorem card_flagged_le (flags : Vector Bool n) : (flagged flags).card ≤ n :=
  (Finset.card_le_univ _).trans_eq (Fintype.card_fin n)

end Flags

/-! ## The best entry -/

variable {α : Type u} {β : Type v}

/-- The best eligible element of a list, the first of equally good ones. -/
def pick (eligible : α → Bool) (better : α → α → Bool) (l : List α) : Option α :=
  l.foldl (fun best x =>
    if !eligible x then best
    else
      match best with
      | none => some x
      | some b => if better x b then some x else some b) none

variable [LinearOrder β] {eligible : α → Bool} {better : α → α → Bool} {key : α → β} {l : List α}
  {m : α}

theorem pick_eq_argmin (hbetter : ∀ a b, better a b = true ↔ key a < key b) (l : List α) :
    pick eligible better l = (l.filter eligible).argmin key := by
  unfold pick List.argmin
  rw [List.foldl_filter]
  congr 1
  funext best x
  cases eligible x with
  | false => rfl
  | true =>
    cases best with
    | none => rfl
    | some b =>
      by_cases hlt : key x < key b
      · have hb : better x b = true := (hbetter x b).mpr hlt
        simp [List.argAux, hb, hlt]
      · have hb : better x b = false := Bool.eq_false_iff.mpr fun hb => hlt ((hbetter x b).mp hb)
        simp [List.argAux, hb, hlt]

theorem pick_eq_none_iff (hbetter : ∀ a b, better a b = true ↔ key a < key b) :
    pick eligible better l = none ↔ ∀ a ∈ l, eligible a = false := by
  rw [pick_eq_argmin hbetter, List.argmin_eq_none, List.filter_eq_nil_iff]
  simp

/-- `a` is chosen over `b` when it is better, or as good and earlier. -/
def ChosenOver [LT α] (better : α → α → Bool) (a b : α) : Prop :=
  better a b = true ∨ better b a = false ∧ a < b

theorem chosenOver_iff [LinearOrder α] (hbetter : ∀ a b, better a b = true ↔ key a < key b)
    (a b : α) : ChosenOver better a b ↔ toLex (key a, a) < toLex (key b, b) := by
  have hfalse : better b a = false ↔ ¬ key b < key a := by
    rw [← hbetter, Bool.not_eq_true]
  unfold ChosenOver
  rw [hbetter, hfalse, Prod.Lex.toLex_lt_toLex]
  constructor
  · rintro (hlt | ⟨hle, hab⟩)
    · exact .inl hlt
    · rcases lt_or_eq_of_le (not_lt.mp hle) with hlt | heq
      · exact .inl hlt
      · exact .inr ⟨heq, hab⟩
  · rintro (hlt | ⟨heq, hab⟩)
    · exact .inl hlt
    · exact .inr ⟨not_lt.mpr (le_of_eq heq), hab⟩

theorem pick_mem (hbetter : ∀ a b, better a b = true ↔ key a < key b)
    (hpick : pick eligible better l = some m) : m ∈ l ∧ eligible m = true := by
  rw [pick_eq_argmin hbetter] at hpick
  exact List.mem_filter.mp (List.argmin_mem hpick)

theorem pick_first [LinearOrder α] (hbetter : ∀ a b, better a b = true ↔ key a < key b)
    (hl : l.Pairwise (· < ·)) (hpick : pick eligible better l = some m) {a : α} (ha : a ∈ l)
    (hel : eligible a = true) : ¬ ChosenOver better a m := by
  rw [pick_eq_argmin hbetter] at hpick
  have hmem : a ∈ l.filter eligible := List.mem_filter.mpr ⟨ha, hel⟩
  have hsorted : (l.filter eligible).Pairwise (· < ·) := hl.filter _
  have hle : key m ≤ key a := List.le_of_mem_argmin hmem hpick
  rw [chosenOver_iff hbetter, Prod.Lex.toLex_lt_toLex]
  rintro (hlt | ⟨heq, hlt⟩)
  · exact absurd hlt (not_lt.mpr hle)
  · have hidx := List.index_of_argmin hpick hmem (le_of_eq heq)
    have hma := List.argmin_mem hpick
    obtain ⟨i, hi, rfl⟩ := List.getElem_of_mem hmem
    obtain ⟨k, hk, rfl⟩ := List.getElem_of_mem hma
    have hnodup : (l.filter eligible).Nodup := hsorted.imp fun h => ne_of_lt h
    rw [hnodup.idxOf_getElem, hnodup.idxOf_getElem] at hidx
    rcases Nat.lt_or_eq_of_le hidx with hki | hki
    · exact absurd (List.pairwise_iff_getElem.mp hsorted k i hk hi hki) (not_lt.mpr hlt.le)
    · subst hki
      exact lt_irrefl _ hlt

/-- An eligible element is picked unless another is chosen over it. -/
theorem picked_iff [LinearOrder α] (hbetter : ∀ a b, better a b = true ↔ key a < key b)
    (hl : l.Pairwise (· < ·)) (hm : m ∈ l) (hel : eligible m = true) :
    pick eligible better l = some m ↔
      ∀ a ∈ l, eligible a = true → ¬ ChosenOver better a m := by
  refine ⟨fun hpick a ha hela => pick_first hbetter hl hpick ha hela, fun hfirst => ?_⟩
  cases hpick : pick eligible better l with
  | none =>
    have hnone := (pick_eq_none_iff hbetter).mp hpick m hm
    rw [hel] at hnone
    cases hnone
  | some b =>
    obtain ⟨hb, helb⟩ := pick_mem hbetter hpick
    have hbm := hfirst b hb helb
    have hmb := pick_first hbetter hl hpick hm hel
    rw [chosenOver_iff hbetter] at hbm hmb
    have heq := le_antisymm (not_lt.mp hmb) (not_lt.mp hbm)
    rw [(Prod.mk.inj (toLex.injective heq)).2]

/-! ## Slots -/

section Slots

variable {α : Type u} {n : Nat} {entries : List (Option (Fin n × α))} {slots filled : Vector (Option α) n}
  {i : Fin n} {x : α}

/-- Puts every entry into the slot it names. There is nothing when an entry names no slot, or one that is
taken. -/
def fill : List (Option (Fin n × α)) → Vector (Option α) n → Option (Vector (Option α) n)
  | [], slots => some slots
  | none :: _, _ => none
  | some (i, x) :: rest, slots =>
    if (slots.get i).isSome then none else fill rest (slots.setIfInBounds i.val (some x))

/-- The loop that passes over such an entry, and only remembers that there was one. -/
def place : List (Option (Fin n × α)) → Bool × Vector (Option α) n → Bool × Vector (Option α) n
  | [], placed => placed
  | none :: rest, placed => place rest (false, placed.2)
  | some (i, x) :: rest, placed =>
    if (placed.2.get i).isSome then place rest (false, placed.2)
    else place rest (placed.1, placed.2.setIfInBounds i.val (some x))

theorem place_of_false : (place entries (false, slots)).1 = false := by
  induction entries generalizing slots with
  | nil => rfl
  | cons entry rest ih =>
    rcases entry with _ | ⟨i, x⟩
    · exact ih
    · unfold place
      split_ifs
      · exact ih
      · exact ih

/-- When nothing is passed over, the two loops agree. -/
theorem place_eq_iff : place entries (true, slots) = (true, filled) ↔ fill entries slots = some filled := by
  induction entries generalizing slots with
  | nil => simp [place, fill]
  | cons entry rest ih =>
    have hfalse : place rest (false, slots) ≠ (true, filled) := fun h =>
      absurd ((congrArg Prod.fst h).symm.trans place_of_false) nofun
    rcases entry with _ | ⟨i, x⟩
    · exact iff_of_false hfalse nofun
    · unfold place fill
      split_ifs
      · exact iff_of_false hfalse nofun
      · exact ih

theorem fill_get (hfill : fill entries slots = some filled) :
    filled.get i = some x ↔ slots.get i = some x ∨ some (i, x) ∈ entries := by
  induction entries generalizing slots with
  | nil =>
    cases hfill
    simp
  | cons entry rest ih =>
    rcases entry with _ | ⟨j, y⟩
    · cases hfill
    · unfold fill at hfill
      split_ifs at hfill with htaken
      rw [ih hfill, get_set, List.mem_cons]
      by_cases hi : j = i
      · subst hi
        rw [if_pos rfl, Option.not_isSome_iff_eq_none.mp htaken]
        simp [eq_comm]
      · rw [if_neg hi]
        have hne : some (i, x) ≠ some (j, y) := fun h => hi (Prod.mk.inj (Option.some.inj h)).1.symm
        simp [hne]

/-- Every entry is put somewhere when all of them name slots that are free, each a different one. -/
theorem fill_isSome_iff : (fill entries slots).isSome = true ↔
    (∀ entry ∈ entries, ∃ i x, entry = some (i, x) ∧ slots.get i = none) ∧
      (entries.map (Option.map Prod.fst)).Nodup := by
  induction entries generalizing slots with
  | nil => simp [fill]
  | cons entry rest ih =>
    rw [List.forall_mem_cons, List.map_cons, List.nodup_cons]
    rcases entry with _ | ⟨j, y⟩
    · exact iff_of_false nofun (by rintro ⟨⟨⟨i, x, h, -⟩, -⟩, -⟩; cases h)
    · unfold fill
      by_cases htaken : (slots.get j).isSome = true
      · rw [if_pos htaken]
        refine iff_of_false nofun ?_
        rintro ⟨⟨⟨i, x, h, hfree⟩, -⟩, -⟩
        cases h
        rw [hfree] at htaken
        cases htaken
      · rw [if_neg htaken, ih]
        have hfree : slots.get j = none := Option.not_isSome_iff_eq_none.mp htaken
        constructor
        · rintro ⟨hrest, hnodup⟩
          refine ⟨⟨⟨j, y, rfl, hfree⟩, fun entry he => ?_⟩, fun hj => ?_, hnodup⟩
          · obtain ⟨i, x, rfl, hi⟩ := hrest entry he
            rw [get_set] at hi
            split_ifs at hi
            exact ⟨i, x, rfl, hi⟩
          · obtain ⟨entry, he, hkey⟩ := List.mem_map.mp hj
            obtain ⟨i, x, rfl, hi⟩ := hrest entry he
            rw [get_set, if_pos (Option.some.inj hkey).symm] at hi
            cases hi
        · rintro ⟨⟨-, hrest⟩, hj, hnodup⟩
          refine ⟨fun entry he => ?_, hnodup⟩
          obtain ⟨i, x, rfl, hi⟩ := hrest entry he
          refine ⟨i, x, rfl, ?_⟩
          rw [get_set, if_neg, hi]
          rintro rfl
          exact hj (List.mem_map.mpr ⟨_, he, rfl⟩)

theorem all_isSome_iff : slots.all Option.isSome = true ↔ ∀ i : Fin n, (slots.get i).isSome = true :=
  Vector.all_eq_true.trans ⟨fun h i => h i.val i.isLt, fun h i hi => h ⟨i, hi⟩⟩

/-- What is read from a table whose slots are all filled is an entry. -/
theorem mem_of_fill {d : α} (hfill : fill entries (.replicate n none) = some filled)
    (hfull : filled.all Option.isSome = true) (i : Fin n) :
    some (i, (filled.map (·.getD d)).get i) ∈ entries := by
  obtain ⟨x, hx⟩ := Option.isSome_iff_exists.mp (all_isSome_iff.mp hfull i)
  have hget : (filled.map (·.getD d)).get i = (filled.get i).getD d := Vector.getElem_map _ i.isLt
  rw [hget, hx]
  rcases (fill_get hfill).mp hx with hempty | hentry
  · cases (Vector.getElem_replicate i.isLt).symm.trans hempty
  · exact hentry

/-- All slots of an empty table are filled when the entries name each slot once. -/
theorem fill_full_iff : (∃ filled, fill entries (.replicate n none) = some filled ∧
      ∀ i, (filled.get i).isSome = true) ↔
    (entries.map (Option.map Prod.fst)).Perm ((List.finRange n).map some) := by
  have hempty : ∀ i, (Vector.replicate n (none : Option α)).get i = none := fun i =>
    Vector.getElem_replicate i.isLt
  have hslots : ((List.finRange n).map some).Nodup :=
    (List.nodup_finRange n).map (Option.some_injective _)
  constructor
  · rintro ⟨filled, hfill, hfull⟩
    obtain ⟨hnamed, hnodup⟩ := fill_isSome_iff.mp (Option.isSome_iff_exists.mpr ⟨_, hfill⟩)
    refine (List.perm_ext_iff_of_nodup hnodup hslots).mpr fun key => ⟨fun hkey => ?_, fun hkey => ?_⟩
    · obtain ⟨entry, he, rfl⟩ := List.mem_map.mp hkey
      obtain ⟨i, x, rfl, -⟩ := hnamed entry he
      exact List.mem_map.mpr ⟨i, List.mem_finRange i, rfl⟩
    · obtain ⟨i, -, rfl⟩ := List.mem_map.mp hkey
      obtain ⟨x, hx⟩ := Option.isSome_iff_exists.mp (hfull i)
      rcases (fill_get hfill).mp hx with hx | hx
      · cases (hempty i).symm.trans hx
      · exact List.mem_map.mpr ⟨_, hx, rfl⟩
  · intro hperm
    have hsome : (fill entries (.replicate n none)).isSome = true := by
      refine fill_isSome_iff.mpr ⟨fun entry he => ?_, hperm.nodup_iff.mpr hslots⟩
      obtain ⟨i, -, hi⟩ := List.mem_map.mp (hperm.mem_iff.mp (List.mem_map_of_mem he))
      rcases entry with _ | ⟨j, x⟩
      · cases hi
      · exact ⟨j, x, rfl, hempty j⟩
    obtain ⟨filled, hfill⟩ := Option.isSome_iff_exists.mp hsome
    refine ⟨filled, hfill, fun i => ?_⟩
    obtain ⟨entry, he, hkey⟩ := List.mem_map.mp
      (hperm.mem_iff.mpr (List.mem_map.mpr ⟨i, List.mem_finRange i, rfl⟩))
    rcases entry with _ | ⟨j, x⟩
    · cases hkey
    · cases Option.some.inj hkey
      exact Option.isSome_iff_exists.mpr ⟨x, (fill_get hfill).mpr (.inr he)⟩

end Slots

/-! ## Copies -/

section Copies

variable {α : Type u} {n : Nat}

/-- The loop that writes the elements of a list to the first places of a table. -/
def copyInto (l : List α) (table : Vector α n) : Vector α n :=
  l.zipIdx.foldl (fun table x => table.setIfInBounds x.2 x.1) table

theorem foldl_zipIdx_get (l : List α) (k : Nat) (table : Vector α n) (i : Fin n) :
    ((l.zipIdx k).foldl (fun table x => table.setIfInBounds x.2 x.1) table).get i =
      if k ≤ i.val then (l[i.val - k]?).getD (table.get i) else table.get i := by
  induction l generalizing k table with
  | nil => simp
  | cons x l ih =>
    rw [List.zipIdx_cons, List.foldl_cons, ih]
    have hset : (table.setIfInBounds k x).get i = if k = i.val then x else table.get i :=
      Vector.getElem_setIfInBounds i.isLt
    rw [hset]
    rcases lt_trichotomy k i.val with hlt | heq | hgt
    · rw [if_pos (Nat.succ_le_of_lt hlt), if_neg hlt.ne, if_pos hlt.le, show i.val - k = (i.val - (k + 1)) + 1 by omega,
        List.getElem?_cons_succ]
    · subst heq
      simp
    · rw [if_neg (by omega), if_neg hgt.ne', if_neg (by omega)]

theorem copyInto_get (l : List α) (table : Vector α n) (i : Fin n) :
    (copyInto l table).get i = (l[i.val]?).getD (table.get i) := by
  unfold copyInto
  rw [foldl_zipIdx_get, if_pos (Nat.zero_le _), Nat.sub_zero]

theorem copyInto_self (l table : Vector α n) : copyInto l.toList table = l := by
  refine Vector.ext fun i hi => ?_
  have hget := copyInto_get l.toList table ⟨i, hi⟩
  simpa [Vector.get, hi] using hget

end Copies

end Tables
