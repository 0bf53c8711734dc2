import HexapodVerified.Input.RcInputConditioner
import HexapodVerified.Lib.PastTime
import HexapodVerified.Lib.Runs
import HexapodVerified.Lib.WrappedTime

/-!
# Debouncing a switch

After its first update, the stable position of a debounced switch becomes the raw one exactly when that has been
seen for the debounce time, as long as the clock cannot come round while a change waits.
-/

namespace HexapodVerified.Input

open PastTime Transition WrappedTime

/-- An update at a true time, of which the debouncer reads the low 32 bits. -/
structure SwitchUpdate where
  raw : UInt8
  now : Nat
  debounce_ms : UInt16

namespace SwitchUpdate

def position (u : SwitchUpdate) : UInt8 := if u.raw > 2 then 1 else u.raw

/-- The clock does not go back, and less than a round of it passes, with `slack u.debounce_ms` to spare, between
an update and the next. -/
def Follows (slack : Nat → Nat) (next u : SwitchUpdate) : Prop :=
  u.now ≤ next.now ∧ next.now + slack u.debounce_ms.toNat < u.now + UInt32.size

instance (slack : Nat → Nat) (next u : SwitchUpdate) : Decidable (Follows slack next u) :=
  inferInstanceAs (Decidable (_ ∧ _))

end SwitchUpdate

namespace RcTriSwitchDebouncer

def step (d : RcTriSwitchDebouncer) (u : SwitchUpdate) : RcTriSwitchDebouncer :=
  d.update u.raw (UInt32.ofNat u.now) u.debounce_ms

abbrev SwitchEvent : Type := Event RcTriSwitchDebouncer SwitchUpdate

/-- An update at or before the time `since` had this position, and so had all later ones. -/
def HeldSince (position : UInt8) (since : Nat) : List SwitchEvent → Prop :=
  Since (fun e => e.label.position = position) fun e => e.label.position = position ∧ e.label.now ≤ since

instance (position : UInt8) (since : Nat) (h : List SwitchEvent) : Decidable (HeldSince position since h) :=
  inferInstanceAs (Decidable (Since _ _ h))

/-- The position of the update has been there for the debounce time. -/
def Settled (e : SwitchEvent) (earlier : List SwitchEvent) : Prop :=
  ∃ since, since + e.label.debounce_ms.toNat ≤ e.label.now ∧ HeldSince e.label.position since (e :: earlier)

/-- The stable position becomes the settled one, and otherwise stays. -/
def Exact (e : SwitchEvent) (earlier : List SwitchEvent) : Prop :=
  (Settled e earlier → e.post.stable = e.label.position) ∧
    (e.post.stable ≠ e.pre.stable → e.post.stable = e.label.position ∧ Settled e earlier)

def Timed (slack : Nat → Nat) (h : List SwitchEvent) : Prop :=
  h.IsChain fun next e => SwitchUpdate.Follows slack next.label e.label

instance (slack : Nat → Nat) (h : List SwitchEvent) : Decidable (Timed slack h) :=
  inferInstanceAs (Decidable (List.IsChain _ h))

/-- In every run, whatever the debouncer was before its first update, every later update is exact. -/
def Debounces (slack : Nat → Nat) : Prop :=
  ∀ (d₀ d : RcTriSwitchDebouncer) (h : List SwitchEvent), d₀.initialized = false →
    Run (Deterministic step) d₀ h d → Timed slack h →
    ∀ later e earlier, h = later ++ e :: earlier → earlier ≠ [] → Exact e earlier

/-- After an update, `since` being the time of the first one with the candidate position. -/
structure Tracks (e : SwitchEvent) (earlier : List SwitchEvent) (d : RcTriSwitchDebouncer) (since : Nat) : Prop where
  initialized : d.initialized = true
  candidate : d.candidate = e.label.position
  candidate_since_ms : d.candidate_since_ms = UInt32.ofNat since
  since_le : since ≤ e.label.now
  held : ∀ t, HeldSince d.candidate t (e :: earlier) ↔ since ≤ t
  /-- a change that has not been made waits for less than the debounce time -/
  waiting : d.candidate ≠ d.stable → e.label.now < since + e.label.debounce_ms.toNat

variable {d₀ d : RcTriSwitchDebouncer} {u : SwitchUpdate} {h : List SwitchEvent} {e e₀ : SwitchEvent}
  {earlier : List SwitchEvent} {since : Nat}

theorem step_first (hinit : d.initialized = false) :
    d.step u = { stable := u.position, candidate := u.position, candidate_since_ms := UInt32.ofNat u.now,
                 initialized := true } := by
  unfold step update
  rw [hinit]
  rfl

def candidateSince (d : RcTriSwitchDebouncer) (u : SwitchUpdate) : UInt32 :=
  if u.position = d.candidate then d.candidate_since_ms else UInt32.ofNat u.now

theorem retarget (d : RcTriSwitchDebouncer) (u : SwitchUpdate) :
    (if (u.position != d.candidate) = true then
      { d with candidate := u.position, candidate_since_ms := UInt32.ofNat u.now } else d) =
      { d with candidate := u.position, candidate_since_ms := d.candidateSince u } := by
  unfold candidateSince
  by_cases hsame : u.position = d.candidate
  · rw [if_pos hsame, if_neg (by rw [hsame, bne_self_eq_false]; exact Bool.false_ne_true), hsame]
  · rw [if_neg hsame, if_pos (bne_iff_ne.mpr hsame)]

theorem step_next (hinit : d.initialized = true) :
    d.step u =
      { stable :=
          if u.position ≠ d.stable ∧ u.debounce_ms.toNat ≤ (UInt32.ofNat u.now - d.candidateSince u).toNat then
            u.position
          else d.stable
        candidate := u.position
        candidate_since_ms := d.candidateSince u
        initialized := true } := by
  have hdebounce (age : UInt32) : u.debounce_ms.toUInt32 ≤ age ↔ u.debounce_ms.toNat ≤ age.toNat := by
    rw [UInt32.le_iff_toNat_le, UInt16.toNat_toUInt32]
  refine (if_neg (by rw [hinit]; exact Bool.false_ne_true)).trans ?_
  refine (congrArg (fun r : RcTriSwitchDebouncer =>
    if (r.candidate != r.stable && UInt32.ofNat u.now - r.candidate_since_ms ≥ u.debounce_ms.toUInt32) = true then
      { r with stable := r.candidate } else r) (retarget d u)).trans ?_
  rw [hinit]
  simp only [Bool.and_eq_true, bne_iff_ne, decide_eq_true_eq, ge_iff_le, hdebounce]
  split <;> rfl

/-- The time at which the position of the next update was first seen. -/
def nextSince (d : RcTriSwitchDebouncer) (since : Nat) (u : SwitchUpdate) : Nat :=
  if u.position = d.candidate then since else u.now

def slack (debounce_ms : Nat) : Nat := debounce_ms - 1

theorem Tracks.candidateSince_eq (htracks : Tracks e₀ earlier d since) :
    d.candidateSince u = UInt32.ofNat (d.nextSince since u) := by
  unfold candidateSince nextSince
  by_cases hsame : u.position = d.candidate
  · rw [if_pos hsame, if_pos hsame, htracks.candidate_since_ms]
  · rw [if_neg hsame, if_neg hsame]

theorem Tracks.nextSince_le (htracks : Tracks e₀ earlier d since) (hfollows : u.Follows slack e₀.label) :
    d.nextSince since u ≤ u.now := by
  unfold nextSince
  split
  · exact htracks.since_le.trans hfollows.1
  · exact Nat.le_refl _

theorem Tracks.held_next (htracks : Tracks e₀ earlier d since) (hfollows : u.Follows slack e₀.label) (t : Nat) :
    HeldSince u.position t (⟨d, u, d.step u⟩ :: e₀ :: earlier) ↔ d.nextSince since u ≤ t := by
  unfold nextSince HeldSince
  rw [since_cons]
  by_cases hsame : u.position = d.candidate
  · rw [if_pos hsame]
    have hheld := htracks.held t
    rw [← hsame] at hheld
    constructor
    · rintro (⟨-, hnow⟩ | ⟨-, hbefore⟩)
      · exact (htracks.since_le.trans hfollows.1).trans hnow
      · exact hheld.mp hbefore
    · intro hle
      exact .inr ⟨rfl, hheld.mpr hle⟩
  · rw [if_neg hsame]
    have hother : ¬ e₀.label.position = u.position := by
      rw [← htracks.candidate]
      exact Ne.symm hsame
    constructor
    · rintro (⟨-, hnow⟩ | ⟨-, hbefore⟩)
      · exact hnow
      · rcases hbefore with ⟨hposition, -⟩ | ⟨hposition, -⟩
        · exact absurd hposition hother
        · exact absurd hposition hother
    · intro hle
      exact .inl ⟨rfl, hle⟩

theorem Tracks.elapsed (htracks : Tracks e₀ earlier d since) (hfollows : u.Follows slack e₀.label)
    (hne : u.position ≠ d.stable) :
    (UInt32.ofNat u.now - d.candidateSince u).toNat = u.now - d.nextSince since u := by
  rw [htracks.candidateSince_eq]
  refine elapsed_exact (htracks.nextSince_le hfollows) ?_
  unfold nextSince
  by_cases hsame : u.position = d.candidate
  · rw [if_pos hsame]
    have hwaiting := htracks.waiting (hsame ▸ hne)
    obtain ⟨-, hround⟩ := hfollows
    unfold slack at hround
    omega
  · rw [if_neg hsame]
    exact Nat.lt_add_of_pos_right (by decide)

theorem Tracks.settled_iff (htracks : Tracks e₀ earlier d since) (hfollows : u.Follows slack e₀.label) :
    Settled ⟨d, u, d.step u⟩ (e₀ :: earlier) ↔ d.nextSince since u + u.debounce_ms.toNat ≤ u.now := by
  constructor
  · rintro ⟨t, hage, hheld⟩
    have hle := (htracks.held_next hfollows t).mp hheld
    exact (Nat.add_le_add_right hle _).trans hage
  · intro hage
    exact ⟨_, hage, (htracks.held_next hfollows _).mpr (Nat.le_refl _)⟩

theorem Tracks.stable_next (htracks : Tracks e₀ earlier d since) (hfollows : u.Follows slack e₀.label) :
    (d.step u).stable = u.position ∧ Settled ⟨d, u, d.step u⟩ (e₀ :: earlier) ∨
      (d.step u).stable = d.stable ∧
        (u.position = d.stable ∨ u.now < d.nextSince since u + u.debounce_ms.toNat) := by
  have hle := htracks.nextSince_le hfollows
  rw [htracks.settled_iff hfollows, step_next htracks.initialized]
  by_cases hne : u.position ≠ d.stable
  · rw [htracks.elapsed hfollows hne]
    by_cases hage : u.debounce_ms.toNat ≤ u.now - d.nextSince since u
    · rw [if_pos ⟨hne, hage⟩]
      exact .inl ⟨rfl, by omega⟩
    · rw [if_neg fun hboth => hage hboth.2]
      exact .inr ⟨rfl, .inr (by omega)⟩
  · rw [if_neg fun hboth => hne hboth.1]
    exact .inr ⟨rfl, .inl (not_not.mp hne)⟩

theorem Tracks.next (htracks : Tracks e₀ earlier d since) (hfollows : u.Follows slack e₀.label) :
    Tracks ⟨d, u, d.step u⟩ (e₀ :: earlier) (d.step u) (d.nextSince since u) where
  initialized := by rw [step_next htracks.initialized]
  candidate := by rw [step_next htracks.initialized]
  candidate_since_ms := by
    rw [step_next htracks.initialized]
    exact htracks.candidateSince_eq
  since_le := htracks.nextSince_le hfollows
  held t := by
    have hcandidate : (d.step u).candidate = u.position := by rw [step_next htracks.initialized]
    rw [hcandidate]
    exact htracks.held_next hfollows t
  waiting hne := by
    have hcandidate : (d.step u).candidate = u.position := by rw [step_next htracks.initialized]
    rw [hcandidate] at hne
    rcases htracks.stable_next hfollows with ⟨hstable, -⟩ | ⟨hstable, hsame | hage⟩
    · exact absurd hstable.symm hne
    · exact absurd (hsame.trans hstable.symm) hne
    · exact hage

theorem Tracks.exact_next (htracks : Tracks e₀ earlier d since) (hfollows : u.Follows slack e₀.label) :
    Exact ⟨d, u, d.step u⟩ (e₀ :: earlier) := by
  rcases htracks.stable_next hfollows with ⟨hstable, hsettled⟩ | ⟨hstable, hsame | hage⟩
  · exact ⟨fun _ => hstable, fun _ => ⟨hstable, hsettled⟩⟩
  · exact ⟨fun _ => hstable.trans hsame.symm, fun hchanged => absurd hstable hchanged⟩
  · refine ⟨fun hsettled => ?_, fun hchanged => absurd hstable hchanged⟩
    have hold := (htracks.settled_iff hfollows).mp hsettled
    omega

theorem tracks_first (hinit : d.initialized = false) : Tracks ⟨d, u, d.step u⟩ [] (d.step u) u.now := by
  rw [step_first hinit]
  refine ⟨rfl, rfl, rfl, Nat.le_refl _, fun t => ?_, fun hne => absurd rfl hne⟩
  unfold HeldSince
  rw [since_cons]
  simp

def Tracked : List SwitchEvent → RcTriSwitchDebouncer → Prop
  | [], d => d.initialized = false
  | e :: earlier, d => ∃ since, Tracks e earlier d since

theorem run_tracked (hinit : d₀.initialized = false) (run : Run (Deterministic step) d₀ h d)
    (htimed : Timed slack h) : Tracked h d := by
  induction run with
  | nil => exact hinit
  | @step h d t u run hstep ih =>
    cases hstep
    cases h with
    | nil => exact ⟨_, tracks_first (ih htimed.tail)⟩
    | cons e₀ earlier =>
      obtain ⟨since, htracks⟩ := ih htimed.tail
      exact ⟨_, htracks.next (List.isChain_cons_cons.mp htimed).1⟩

/-- The switch is moved, seen there 50 ms later, and then not read for almost a round of the clock. -/
def roundUpdates : List SwitchUpdate :=
  [⟨0, 0, 100⟩, ⟨1, 1000, 100⟩, ⟨1, 1050, 100⟩, ⟨1, 1050 + (2 ^ 32 - 40), 100⟩]

/-- A change that waits while the clock comes round is not made. -/
theorem not_debounces_round : ¬ Debounces fun _ => 0 := by
  intro hall
  have hlate := hall {} _ _ rfl (run_execute step roundUpdates .nil) (by decide) [] _ _ rfl (by decide)
  have hstable := hlate.1 ⟨1000, by decide, by decide⟩
  cases hstable

/-- With less than a round of the clock, less what the debounce time leaves to wait, between updates, a stable
position becomes the raw one exactly when that has been seen without a break for the debounce time. -/
theorem debounces : Debounces slack := by
  intro d₀ d h hinit run htimed later e earlier hsplit hne
  subst hsplit
  obtain ⟨m, hrun⟩ := run.of_append
  obtain ⟨rfl, hstep, hbefore⟩ := hrun.of_cons
  have htimed' : Timed slack (e :: earlier) := (List.isChain_append.mp htimed).2.1
  obtain ⟨pre, u, post⟩ := e
  have hpost : post = pre.step u := hstep
  subst hpost
  cases earlier with
  | nil => exact absurd rfl hne
  | cons e₀ earlier =>
    obtain ⟨since, htracks⟩ := run_tracked hinit hbefore htimed'.tail
    exact htracks.exact_next (List.isChain_cons_cons.mp htimed').1

/-- The switch is moved, bounces, and then stays, while the clock comes round. -/
def bounceUpdates : List SwitchUpdate :=
  [⟨0, 2 ^ 32 - 1000, 100⟩, ⟨1, 2 ^ 32 - 90, 100⟩, ⟨0, 2 ^ 32 - 20, 100⟩, ⟨1, 2 ^ 32 - 10, 100⟩, ⟨1, 2 ^ 32 + 80, 100⟩]

/-- The change is not made 90 ms behind the bounce, but 110 ms behind it. -/
theorem debounces_bounce : (execute step {} bounceUpdates).stable = 0 ∧
    (execute step {} (bounceUpdates ++ [⟨1, 2 ^ 32 + 100, 100⟩])).stable = 1 := by
  have hmade := debounces {} _ _ rfl (run_execute step (bounceUpdates ++ [⟨1, 2 ^ 32 + 100, 100⟩]) .nil) (by decide)
    [] _ _ rfl (by decide)
  exact ⟨rfl, hmade.1 ⟨2 ^ 32 - 10, by decide, by decide⟩⟩

end RcTriSwitchDebouncer

end HexapodVerified.Input
