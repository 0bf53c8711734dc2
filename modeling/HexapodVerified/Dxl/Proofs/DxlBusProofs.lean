import HexapodVerified.Dxl.DxlBus
import HexapodVerified.Lib.PastTime

/-!
# The servo bus

Only the discovery changes which servos are in the table. All other operations keep the ids, whatever
the servos answer.
-/

namespace HexapodVerified.Dxl

open PastTime Config

namespace DxlBus

variable {α β : Type} {bus bus' : DxlBus}

/-- The operation leaves the ids of the discovered servos as they are. -/
def KeepsIds (op : BusM α) : Prop := ∀ bus, (op bus).2.ids = bus.ids

theorem KeepsIds.pure (a : α) : KeepsIds (Pure.pure a : BusM α) := fun _ => rfl

theorem KeepsIds.get : KeepsIds (MonadState.get : BusM DxlBus) := fun _ => rfl

theorem KeepsIds.transact : KeepsIds DxlBus.transact := fun _ => rfl

theorem KeepsIds.bind {op : BusM α} {next : α → BusM β} (hop : KeepsIds op)
    (hnext : ∀ a, KeepsIds (next a)) : KeepsIds (op >>= next) := by
  intro bus
  show (next (op bus).1 (op bus).2).2.ids = bus.ids
  rw [hnext, hop]

theorem KeepsIds.ite {c : Prop} [Decidable c] {op op' : BusM α} (hop : KeepsIds op)
    (hop' : KeepsIds op') : KeepsIds (if c then op else op') := by
  by_cases hc : c
  · rw [if_pos hc]
    exact hop
  · rw [if_neg hc]
    exact hop'

theorem ids_set (index : Nat) {p : ServoProfile} (hp : p.id = (bus.profile index).id) :
    ({ bus with servos := bus.servos.setIfInBounds index p } : DxlBus).ids = bus.ids := by
  unfold ids discovered
  rw [Vector.toList_setIfInBounds, List.map_take, List.map_take, List.map_set]
  congr 1
  apply List.ext_getElem?
  intro i
  rw [List.getElem?_set]
  by_cases hi : index = i
  · subst hi
    by_cases hlt : index < (List.map ServoProfile.id bus.servos.toList).length
    · have hlt' : index < kMaxServos := by simpa using hlt
      rw [if_pos rfl, if_pos hlt, List.getElem?_eq_getElem hlt, hp]
      unfold profile
      simp [Vector.getD, hlt']
    · rw [if_pos rfl, if_neg hlt, List.getElem?_eq_none (not_lt.mp hlt)]
  · rw [if_neg hi]

theorem KeepsIds.setTorqueFlag (index : Nat) (on : Bool) :
    KeepsIds (modify (DxlBus.setTorqueFlag · index on) : BusM PUnit) :=
  fun bus => @ids_set bus index _ rfl

theorem KeepsIds.retried : KeepsIds DxlBus.retried :=
  .bind .transact fun _ => .ite (.pure _) .transact

theorem KeepsIds.setTorqueEach (on : Bool) (l : List Nat) : KeepsIds (DxlBus.setTorqueEach on l) := by
  induction l with
  | nil => exact .pure _
  | cons index rest ih =>
    refine .bind ?_ fun ok => .bind ih fun acked => .pure _
    exact .bind .retried fun r => .ite (.bind (.setTorqueFlag index on) fun _ => .pure _) (.pure _)

theorem KeepsIds.setTorqueAll (on : Bool) : KeepsIds (DxlBus.setTorqueAll on) :=
  .bind .get fun _ => .ite (.pure _) (.setTorqueEach on _)

theorem KeepsIds.setTorqueOne (id : UInt8) (on : Bool) : KeepsIds (DxlBus.setTorqueOne id on) := by
  refine .bind .get fun bus => .ite (.pure _) (.bind .transact fun r => .ite ?_ (.pure _))
  cases bus.ids.idxOf? id with
  | none => exact .pure _
  | some index => exact .bind (.setTorqueFlag index on) fun _ => .pure _

theorem KeepsIds.torqueState : KeepsIds DxlBus.torqueState :=
  .bind .get fun _ => .ite (.pure _) (.bind .transact fun _ => .pure _)

theorem KeepsIds.verifyTorque (on : Bool) (n : Nat) : KeepsIds (DxlBus.verifyTorque on n) := by
  induction n with
  | zero => exact .pure _
  | succ n ih => exact .bind .torqueState fun _ => .ite ih (.pure _)

theorem KeepsIds.syncWrites (chunks : List (List GoalTarget)) :
    KeepsIds (DxlBus.syncWrites chunks) := by
  induction chunks with
  | nil => exact .pure _
  | cons chunk rest ih => exact .bind .transact fun _ => .bind ih fun _ => .pure _

theorem KeepsIds.writeGoalPositions (targets : List GoalTarget) :
    KeepsIds (DxlBus.writeGoalPositions targets) :=
  .bind .get fun _ => .ite (.pure _) (.syncWrites _)

theorem KeepsIds.readStatus (id : UInt8) : KeepsIds (DxlBus.readStatus id) := by
  refine .bind .get fun bus => .ite (.pure _) (.bind .transact fun _ => .ite (.pure _) ?_)
  refine .bind .transact fun _ => .bind .transact fun _ => .bind .transact fun _ =>
    .bind .transact fun _ => ?_
  dsimp only
  split
  · exact .bind .transact fun _ => .bind (.pure _) fun _ => .bind .transact fun _ => .pure _
  · exact .bind (.pure _) fun _ => .bind .transact fun _ => .pure _

theorem KeepsIds.syncReadStatus (out : Vector ServoStatus kMaxServos) :
    KeepsIds (DxlBus.syncReadStatus out) :=
  .bind .get fun _ => .ite (.pure _)
    (.bind (fun _ => rfl) fun _ => .bind .retried fun _ => .ite (.pure _) (.pure _))

theorem length_ids : bus.ids.length = bus.servoCount := by
  unfold ids discovered servoCount
  rw [List.length_map, List.length_take, Vector.length_toList]
  exact Nat.min_eq_left (Nat.le_of_lt_succ bus.count.isLt)

theorem servoCount_le : bus.servoCount ≤ kMaxServos := Nat.le_of_lt_succ bus.count.isLt

theorem servoCount_congr (hids : bus'.ids = bus.ids) : bus'.servoCount = bus.servoCount := by
  rw [← length_ids, ← length_ids, hids]

theorem profileById_isSome {id : UInt8} : (bus.profileById id).isSome = true ↔ id ∈ bus.ids := by
  unfold profileById ids
  rw [List.find?_isSome, List.mem_map]
  constructor
  · rintro ⟨p, hp, hid⟩
    exact ⟨p, hp, eq_of_beq hid⟩
  · rintro ⟨p, hp, hid⟩
    exact ⟨p, hp, beq_iff_eq.mpr hid⟩

theorem ids_get {i : Nat} (hi : i < bus.servoCount) : bus.ids[i]? = some (bus.profile i).id := by
  have hlt : i < kMaxServos := Nat.lt_of_lt_of_le hi servoCount_le
  unfold ids discovered profile
  rw [List.getElem?_map, List.getElem?_take_of_lt (show i < bus.count.val from hi)]
  simp [Vector.getD, hlt]

end DxlBus

/-!
## The latch of the servo faults

The monitor keeps one counter for each servo and one latch for all of them. The counter of a servo is
the streak of that servo's own observations, whatever is observed of the other servos in between.
-/

structure Observation where
  servo : Fin kNumServos
  table_kind : TableKind
  error_bits : UInt8
  deriving DecidableEq, Repr

namespace Observation

/-- The sample has an error bit that stops at once. -/
def Immediate (o : Observation) : Prop := o.error_bits &&& immediateMask o.table_kind ≠ 0

/-- The sample has an error bit that stops when it repeats. -/
def Persistent (o : Observation) : Prop := o.error_bits &&& persistentMask o.table_kind ≠ 0

instance : DecidablePred Immediate := fun o =>
  inferInstanceAs (Decidable (o.error_bits &&& immediateMask o.table_kind ≠ 0))

instance : DecidablePred Persistent := fun o =>
  inferInstanceAs (Decidable (o.error_bits &&& persistentMask o.table_kind ≠ 0))

end Observation

inductive FaultCall where
  | reset
  | observe (o : Observation)
  deriving DecidableEq, Repr

namespace FaultMonitor

open Observation

variable {m : FaultMonitor} {o : Observation} {l : List Observation} {h : List FaultCall}
  {servo : Fin kNumServos}

def call (m : FaultMonitor) : FaultCall → FaultMonitor
  | .reset => m.reset
  | .observe o => m.observe o.servo o.table_kind o.error_bits

def after : List FaultCall → FaultMonitor
  | [] => {}
  | c :: h => (after h).call c

def sinceReset : List FaultCall → List Observation
  | [] => []
  | .reset :: _ => []
  | .observe o :: h => o :: sinceReset h

def ofServo (servo : Fin kNumServos) (l : List Observation) : List Observation :=
  l.filter (·.servo = servo)

/-- A sample was an immediate fault, or a servo's samples had a persistent error often enough in a
row. -/
def Condemned (l : List Observation) : Prop :=
  (∃ o ∈ l, o.Immediate) ∨
    ∃ servo, InARow kPersistentSamples.toNat Persistent (ofServo servo l)

@[simp] theorem ofServo_cons_self : ofServo o.servo (o :: l) = o :: ofServo o.servo l :=
  List.filter_cons_of_pos (by simp)

theorem ofServo_cons_of_ne (hne : o.servo ≠ servo) : ofServo servo (o :: l) = ofServo servo l :=
  List.filter_cons_of_neg (by simpa using hne)

/-- Only the samples of the observed servo get a longer row. -/
theorem condemned_cons : Condemned (o :: l) ↔ o.Immediate ∨
    kPersistentSamples.toNat ≤ PastTime.streak Persistent (ofServo o.servo (o :: l)) ∨ Condemned l := by
  constructor
  · rintro (⟨x, hx, himm⟩ | ⟨servo, hrow⟩)
    · rcases List.mem_cons.mp hx with rfl | hx
      · exact .inl himm
      · exact .inr (.inr (.inl ⟨x, hx, himm⟩))
    · by_cases hs : o.servo = servo
      · subst hs
        rw [ofServo_cons_self] at hrow ⊢
        rcases inARow_cons.mp hrow with hnow | hbefore
        · exact .inr (.inl hnow)
        · exact .inr (.inr (.inr ⟨_, hbefore⟩))
      · rw [ofServo_cons_of_ne hs] at hrow
        exact .inr (.inr (.inr ⟨servo, hrow⟩))
  · rintro (himm | hnow | ⟨x, hx, himm⟩ | ⟨servo, hrow⟩)
    · exact .inl ⟨o, List.mem_cons_self .., himm⟩
    · refine .inr ⟨o.servo, ?_⟩
      rw [ofServo_cons_self] at hnow ⊢
      exact inARow_cons.mpr (.inl hnow)
    · exact .inl ⟨x, List.mem_cons_of_mem _ hx, himm⟩
    · refine .inr ⟨servo, ?_⟩
      by_cases hs : o.servo = servo
      · subst hs
        rw [ofServo_cons_self]
        exact hrow.cons
      · rw [ofServo_cons_of_ne hs]
        exact hrow

theorem not_condemned_nil : ¬ Condemned [] := by
  rintro (⟨x, hx, -⟩ | ⟨servo, hrow⟩)
  · cases hx
  · exact not_inARow_nil (by decide) hrow

/-- What the monitor knows of the observations since its last reset. -/
structure Tracks (m : FaultMonitor) (l : List Observation) : Prop where
  faulted : m.faulted = true ↔ Condemned l
  streak : m.faulted = false → ∀ servo : Fin kNumServos,
    m.streak[servo].toNat = PastTime.streak Persistent (ofServo servo l)

theorem tracks_reset : Tracks {} [] where
  faulted := ⟨nofun, fun hc => absurd hc not_condemned_nil⟩
  streak _ servo := by simp [ofServo]

theorem counter_get (v : Vector UInt8 kNumServos) (servo : Fin kNumServos) (d : UInt8) :
    v.getD servo d = v[servo] := by
  simp [Vector.getD, servo.isLt]

theorem counter_set (v : Vector UInt8 kNumServos) (servo : Fin kNumServos) (c : UInt8) :
    v.setIfInBounds servo c = v.set servo c := by
  ext i hi
  rw [Vector.getElem_setIfInBounds, Vector.getElem_set]

/-- An observation is one of: ignored, an immediate fault, a clean sample, one more of a streak. -/
theorem observe_cases (m : FaultMonitor) (o : Observation) :
    (m.faulted = true ∧ m.call (.observe o) = m) ∨
    (m.faulted = false ∧ o.Immediate ∧ m.call (.observe o) = { m with faulted := true }) ∨
    (m.faulted = false ∧ ¬ o.Immediate ∧ ¬ o.Persistent ∧
      m.call (.observe o) = { m with streak := m.streak.set o.servo 0 }) ∨
    (m.faulted = false ∧ ¬ o.Immediate ∧ o.Persistent ∧ ∃ count : UInt8,
      count = (if m.streak[o.servo] < 0xFF then m.streak[o.servo] + 1 else m.streak[o.servo]) ∧
      m.call (.observe o) =
        { streak := m.streak.set o.servo count, faulted := count ≥ kPersistentSamples }) := by
  have hvalid : ¬ (o.servo : Nat) ≥ kNumServos := by omega
  unfold call observe
  cases hf : m.faulted with
  | true => exact .inl ⟨rfl, by simp⟩
  | false =>
    by_cases himm : o.Immediate
    · refine .inr (.inl ⟨rfl, himm, ?_⟩)
      simp [hvalid, bne_iff_ne.mpr himm]
    · have himm' : (o.error_bits &&& immediateMask o.table_kind != 0) = false :=
        bne_eq_false_iff_eq.mpr (not_ne_iff.mp himm)
      by_cases hper : o.Persistent
      · refine .inr (.inr (.inr ⟨rfl, himm, hper, _, rfl, ?_⟩))
        have hper' : (o.error_bits &&& persistentMask o.table_kind == 0) = false :=
          beq_eq_false_iff_ne.mpr hper
        simp [hvalid, himm', hper', counter_set, counter_get]
      · refine .inr (.inr (.inl ⟨rfl, himm, hper, ?_⟩))
        have hper' : (o.error_bits &&& persistentMask o.table_kind == 0) = true :=
          beq_iff_eq.mpr (not_ne_iff.mp hper)
        simp [hvalid, himm', hper', counter_set]

theorem Condemned.cons (hc : Condemned l) : Condemned (o :: l) := condemned_cons.mpr (.inr (.inr hc))

theorem streak_set {v : Vector UInt8 kNumServos} {c : UInt8}
    (hv : ∀ servo : Fin kNumServos, v[servo].toNat = PastTime.streak Persistent (ofServo servo l))
    (hc : c.toNat = PastTime.streak Persistent (ofServo o.servo (o :: l)))
    (servo : Fin kNumServos) :
    (v.set o.servo c)[servo].toNat = PastTime.streak Persistent (ofServo servo (o :: l)) := by
  by_cases hs : o.servo = servo
  · subst hs
    simpa using hc
  · have hne : (o.servo : Nat) ≠ servo := fun heq => hs (Fin.ext heq)
    have hother : (v.set o.servo c)[servo] = v[servo] := by simp [hne]
    rw [hother, ofServo_cons_of_ne hs]
    exact hv servo

theorem tracks_observe (ht : Tracks m l) (o : Observation) :
    Tracks (m.call (.observe o)) (o :: l) := by
  rcases observe_cases m o with ⟨hf, hcall⟩ | ⟨hf, himm, hcall⟩ | ⟨hf, himm, hper, hcall⟩ |
    ⟨hf, himm, hper, count, hcount, hcall⟩
  · -- latched: nothing changes any more
    rw [hcall]
    exact
      { faulted := ⟨fun _ => (ht.faulted.mp hf).cons, fun _ => hf⟩
        streak := fun hnot => absurd hf (by simp [hnot]) }
  · rw [hcall]
    exact
      { faulted := ⟨fun _ => condemned_cons.mpr (.inl himm), fun _ => rfl⟩
        streak := nofun }
  · have hzero : PastTime.streak Persistent (ofServo o.servo (o :: l)) = 0 := by
      rw [ofServo_cons_self]
      exact streak_cons_of_not hper
    have hnot : ¬ Condemned l := fun hc => absurd (ht.faulted.mpr hc) (by simp [hf])
    rw [hcall]
    refine { faulted := ⟨fun hf' => absurd hf' (by simp [hf]), fun hc => ?_⟩, streak := fun _ => ?_ }
    · rcases condemned_cons.mp hc with hi | hrow | hc
      · exact absurd hi himm
      · rw [hzero] at hrow
        cases hrow
      · exact absurd hc hnot
    · exact streak_set (ht.streak hf) hzero.symm
  · have hnot : ¬ Condemned l := fun hc => absurd (ht.faulted.mpr hc) (by simp [hf])
    have hone : PastTime.streak Persistent (ofServo o.servo (o :: l)) =
        PastTime.streak Persistent (ofServo o.servo l) + 1 := by
      rw [ofServo_cons_self]
      exact streak_cons_of hper
    -- a streak of three would have condemned the servo before
    have hsmall : PastTime.streak Persistent (ofServo o.servo l) < 3 := by
      by_contra hlong
      refine hnot (.inr ⟨o.servo, ?_⟩)
      cases hown : ofServo o.servo l with
      | nil => simp [hown] at hlong
      | cons e rest =>
        rw [hown] at hlong
        exact inARow_cons.mpr (.inl (Nat.le_of_not_lt hlong))
    have hold := ht.streak hf o.servo
    have hnew : count.toNat = PastTime.streak Persistent (ofServo o.servo (o :: l)) := by
      have hroom : m.streak[o.servo] < 0xFF := by
        rw [UInt8.lt_iff_toNat_lt, hold]
        exact Nat.lt_trans hsmall (by decide)
      have h1 : (1 : UInt8).toNat = 1 := rfl
      rw [hcount, if_pos hroom, hone, UInt8.toNat_add, hold, h1]
      exact Nat.mod_eq_of_lt (by omega)
    rw [hcall]
    refine { faulted := ?_, streak := fun _ => streak_set (ht.streak hf) hnew }
    rw [condemned_cons, ← hnew, decide_eq_true_iff, ge_iff_le, UInt8.le_iff_toNat_le]
    constructor
    · intro hge
      exact .inr (.inl hge)
    · rintro (hi | hge | hc)
      · exact absurd hi himm
      · exact hge
      · exact absurd hc hnot

theorem tracks_after (h : List FaultCall) : Tracks (after h) (sinceReset h) := by
  induction h with
  | nil => exact tracks_reset
  | cons c h ih =>
    cases c with
    | reset => exact tracks_reset
    | observe o => exact tracks_observe ih o

/-- Only a reset releases the latch. -/
theorem after_append_faulted {later : List FaultCall} (hf : (after h).faulted = true)
    (hkeep : FaultCall.reset ∉ later) : (after (later ++ h)).faulted = true := by
  induction later with
  | nil => exact hf
  | cons c later ih =>
    have hlater := ih fun hr => hkeep (List.mem_cons_of_mem _ hr)
    cases c with
    | reset => exact absurd (List.mem_cons_self ..) hkeep
    | observe o =>
      have ht := tracks_after (later ++ h)
      exact (tracks_observe ht o).faulted.mpr (ht.faulted.mp hlater).cons

/-- The monitor reports a fault exactly when, since the last reset, a sample had an immediate fault bit
or the samples of one servo had a persistent error three times in a row; and it reports the fault until
a reset. -/
theorem faulted_iff_condemned (h : List FaultCall) :
    ((after h).faulted = true ↔ Condemned (sinceReset h)) ∧
    ∀ later, FaultCall.reset ∉ later → (after h).faulted = true →
      (after (later ++ h)).faulted = true :=
  ⟨(tracks_after h).faulted, fun _ hkeep hf => after_append_faulted hf hkeep⟩

/-- Three overload samples of one servo, with a clean sample of another in between, and then a clean
sample of the first. -/
theorem faulted_iff_condemned_overload :
    (after [.observe ⟨0, .mx28V2, 0⟩, .observe ⟨0, .mx28V2, 0x20⟩, .observe ⟨1, .mx28V2, 0⟩,
      .observe ⟨0, .mx28V2, 0x20⟩, .observe ⟨0, .mx28V2, 0x20⟩]).faulted = true :=
  (faulted_iff_condemned [.observe ⟨0, .mx28V2, 0x20⟩, .observe ⟨1, .mx28V2, 0⟩,
    .observe ⟨0, .mx28V2, 0x20⟩, .observe ⟨0, .mx28V2, 0x20⟩]).2 [.observe ⟨0, .mx28V2, 0⟩]
    (by decide) (by decide)

end FaultMonitor

end HexapodVerified.Dxl
