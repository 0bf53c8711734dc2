import HexapodVerified.Lib.Tables
import HexapodVerified.Safety.Watchdog

/-!
# What the watchdog knows of the tasks

The counter of a task is ahead of the value that was remembered of it by the check-ins since the latest
evaluation, modulo the range of the counter. From that follow the bits of the missed mask; the hardware
watchdog is only touched when the bits of the critical tasks are clear.
-/

namespace HexapodVerified.Safety

open Transition

def TaskId.Monitored (id : TaskId) : Prop := id.index < kTaskCount

abbrev TaskId.Monitored.slot {id : TaskId} (hid : id.Monitored) : Fin kTaskCount := ⟨id.index, hid⟩

def TaskId.Critical (id : TaskId) : Prop := kCriticalMask.toNat.testBit id.index = true

theorem TaskId.critical_iff {id : TaskId} : id.Critical ↔ id = .control ∨ id = .dxl := by
  unfold Critical
  cases id <;> decide

theorem TaskId.Critical.monitored {id : TaskId} (h : id.Critical) : id.Monitored := by
  unfold Monitored
  rcases critical_iff.mp h with rfl | rfl
  · decide
  · decide

theorem TaskId.index_inj {id id' : TaskId} (h : id.index = id'.index) : id = id' := by
  revert h
  cases id <;> cases id' <;> decide

/-! ## One evaluation -/

namespace Watchdog

variable {w : Watchdog} {enabled : Bool}

theorem bit_iff : ∀ i j : Fin kTaskCount,
    (1 <<< UInt32.ofNat i : UInt32).toNat.testBit j = true ↔ j = i := by
  decide

theorem look_bit (beats : Vector UInt32 kTaskCount) (seen : UInt32 × Vector UInt32 kTaskCount)
    (i j : Fin kTaskCount) :
    (look beats seen i).1.toNat.testBit j = true ↔
      seen.1.toNat.testBit j = true ∨ j = i ∧ beats.get j = seen.2.get j := by
  unfold look
  by_cases hstill : beats.get i = seen.2.get i
  · simp only [hstill, if_true, UInt32.toNat_or, Nat.testBit_or, Bool.or_eq_true, bit_iff]
    constructor
    · rintro (hset | rfl)
      · exact .inl hset
      · exact .inr ⟨rfl, hstill⟩
    · rintro (hset | ⟨rfl, -⟩)
      · exact .inl hset
      · exact .inr rfl
  · simp only [hstill, if_false]
    constructor
    · intro hset
      exact .inl hset
    · rintro (hset | ⟨rfl, hsame⟩)
      · exact hset
      · exact absurd hsame hstill

theorem look_seen (beats : Vector UInt32 kTaskCount) (seen : UInt32 × Vector UInt32 kTaskCount)
    (i j : Fin kTaskCount) :
    (look beats seen i).2.get j = if j = i then beats.get j else seen.2.get j := by
  unfold look
  rw [Tables.get_set]
  by_cases hji : j = i
  · subst hji
    rw [if_pos rfl]
  · rw [if_neg hji, if_neg (Ne.symm hji)]

theorem foldl_look (beats : Vector UInt32 kTaskCount) (l : List (Fin kTaskCount)) (hnodup : l.Nodup)
    (seen : UInt32 × Vector UInt32 kTaskCount) (j : Fin kTaskCount) :
    ((l.foldl (look beats) seen).1.toNat.testBit j = true ↔
      seen.1.toNat.testBit j = true ∨ j ∈ l ∧ beats.get j = seen.2.get j) ∧
    (l.foldl (look beats) seen).2.get j = if j ∈ l then beats.get j else seen.2.get j := by
  induction l generalizing seen with
  | nil => simp
  | cons i l ih =>
    rcases List.nodup_cons.mp hnodup with ⟨hfresh, hnodup'⟩
    rcases ih hnodup' (look beats seen i) with ⟨hmask, hlast⟩
    rw [List.foldl_cons, hmask, hlast, look_bit, look_seen]
    constructor
    · constructor
      · rintro ((hset | ⟨rfl, hsame⟩) | ⟨hmem, hsame⟩)
        · exact .inl hset
        · exact .inr ⟨List.mem_cons_self .., hsame⟩
        · have hne : j ≠ i := fun h => hfresh (h ▸ hmem)
          rw [if_neg hne] at hsame
          exact .inr ⟨List.mem_cons_of_mem _ hmem, hsame⟩
      · rintro (hset | ⟨hmem, hsame⟩)
        · exact .inl (.inl hset)
        · rcases List.mem_cons.mp hmem with rfl | hmem
          · exact .inl (.inr ⟨rfl, hsame⟩)
          · have hne : j ≠ i := fun h => hfresh (h ▸ hmem)
            rw [if_neg hne]
            exact .inr ⟨hmem, hsame⟩
    · by_cases hji : j = i
      · subst hji
        simp [hfresh]
      · simp [hji]

theorem foldl_look_all (w : Watchdog) :
    ((List.finRange kTaskCount).foldl (look w.beats) (0, w.lastSeen)).2 = w.beats ∧
    ∀ j : Fin kTaskCount,
      ((List.finRange kTaskCount).foldl (look w.beats) (0, w.lastSeen)).1.toNat.testBit j = true ↔
        w.beats.get j = w.lastSeen.get j := by
  have hloop := fun j => foldl_look w.beats _ (List.nodup_finRange kTaskCount) (0, w.lastSeen) j
  constructor
  · apply Vector.ext
    intro j hj
    have hlast := (hloop ⟨j, hj⟩).2
    rw [if_pos (List.mem_finRange _)] at hlast
    exact hlast
  · intro j
    rw [(hloop j).1]
    simp

theorem critical_clear {mask : UInt32} (h : (mask &&& kCriticalMask) = 0) {id : TaskId}
    (hid : id.Critical) : mask.toNat.testBit id.index = false := by
  have hand : (mask &&& kCriticalMask).toNat.testBit id.index = false := by
    rw [h]
    exact Nat.zero_testBit _
  rw [UInt32.toNat_and, Nat.testBit_and, show kCriticalMask.toNat.testBit id.index = true from hid,
    Bool.and_true] at hand
  exact hand

structure Evaluated (w w' : Watchdog) (enabled : Bool) (calls : List HwCall) : Prop where
  beats : w'.beats = w.beats
  lastSeen : w'.lastSeen = w.beats
  primed : w'.windowPrimed = true
  missed : ∀ id : TaskId, (hid : id.Monitored) →
    (w'.missedMask.toNat.testBit id.index = true ↔
      w.beats.get hid.slot = w.lastSeen.get hid.slot)
  armed : w'.hwArmed = true → w.hwArmed = true ∨ .hwEnable ∈ calls
  alive : ∀ call ∈ calls, ∀ id : TaskId, id.Critical →
    w'.missedMask.toNat.testBit id.index = false

theorem evaluated (enabled : Bool) (hprimed : w.windowPrimed = true) :
    Evaluated w (w.evaluate enabled).1 enabled (w.evaluate enabled).2 := by
  rcases foldl_look_all w with ⟨hlast, hmissed⟩
  unfold evaluate
  rw [hprimed]
  generalize (List.finRange kTaskCount).foldl (look w.beats) (0, w.lastSeen) = loop at hlast hmissed ⊢
  rcases loop with ⟨missed, lastSeen⟩
  refine ⟨rfl, hlast, rfl, fun id hid => hmissed ⟨id.index, hid⟩, ?_, ?_⟩
  · intro harmed
    by_cases harm : (!w.hwArmed && missed &&& kCriticalMask == 0 && w.beats[TaskId.control.index] != 0 &&
        w.beats[TaskId.dxl.index] != 0) = true
    · right
      simp only [Bool.not_true, Bool.false_eq_true, if_false, harm, if_true]
      exact List.mem_append_left _ (List.mem_singleton.mpr rfl)
    · left
      simpa only [Bool.not_true, Bool.false_eq_true, if_false, harm] using harmed
  · intro call hcall id hid
    suffices hclear : missed &&& kCriticalMask = 0 from critical_clear hclear hid
    simp only [Bool.not_true, Bool.false_eq_true, if_false, List.mem_append,
      List.mem_ite_nil_right, Bool.and_eq_true, beq_iff_eq] at hcall
    rcases hcall with ⟨⟨⟨⟨-, halive⟩, -⟩, -⟩, -⟩ | ⟨⟨-, halive⟩, -⟩
    · exact halive
    · exact halive

theorem evaluate_unprimed (hprimed : w.windowPrimed = false) :
    w.evaluate enabled =
      ({ w with lastSeen := w.beats, missedMask := 0, windowPrimed := true }, []) := by
  unfold evaluate
  rw [hprimed]
  rfl

end Watchdog

section Runs

variable {h : List WatchdogEvent} {w : Watchdog} {id : TaskId}

def checkIns (id : TaskId) (h : List WatchdogEvent) : Nat :=
  h.countP fun e => e.label.1 = .checkIn id

def sinceEvaluate (h : List WatchdogEvent) : List WatchdogEvent :=
  h.takeWhile fun e => !e.label.1.isEvaluate

def Primed (h : List WatchdogEvent) : Prop := ∃ e ∈ h, e.label.1.isEvaluate = true

structure Knows (h : List WatchdogEvent) (w : Watchdog) : Prop where
  primed : w.windowPrimed = true ↔ Primed h
  beats : ∀ id : TaskId, (hid : id.Monitored) →
    w.beats.get hid.slot =
      w.lastSeen.get hid.slot + UInt32.ofNat (checkIns id (sinceEvaluate h))
  armed : w.hwArmed = true → ∀ id : TaskId, id.Critical → 0 < checkIns id h

theorem checkIns_cons (id : TaskId) (e : WatchdogEvent) (h : List WatchdogEvent) :
    checkIns id (e :: h) = checkIns id h + if e.label.1 = .checkIn id then 1 else 0 := by
  unfold checkIns
  rw [List.countP_cons]
  simp

theorem sinceEvaluate_evaluate {e : WatchdogEvent} (he : e.label.1.isEvaluate = true) :
    sinceEvaluate (e :: h) = [] := by
  unfold sinceEvaluate
  simp [he]

theorem sinceEvaluate_checkIn {e : WatchdogEvent} (he : e.label.1.isEvaluate = false) :
    sinceEvaluate (e :: h) = e :: sinceEvaluate h := by
  unfold sinceEvaluate
  simp [he]

theorem checkIns_sinceEvaluate_le (id : TaskId) (h : List WatchdogEvent) :
    checkIns id (sinceEvaluate h) ≤ checkIns id h :=
  (List.takeWhile_sublist _).countP_le

theorem Knows.advanced (hk : Knows h w) (hid : id.Monitored)
    (hne : w.beats.get hid.slot ≠ w.lastSeen.get hid.slot) : 0 < checkIns id (sinceEvaluate h) := by
  rcases Nat.eq_zero_or_pos (checkIns id (sinceEvaluate h)) with hzero | hpos
  · have hbeats := hk.beats id hid
    rw [hzero] at hbeats
    exact absurd (by simpa using hbeats) hne
  · exact hpos

/-- The counter stands where it was remembered exactly when the check-ins are a multiple of its range. -/
theorem Knows.still_iff (hk : Knows h w) (hid : id.Monitored) :
    w.beats.get hid.slot = w.lastSeen.get hid.slot ↔
      UInt32.size ∣ checkIns id (sinceEvaluate h) := by
  rw [hk.beats id hid]
  generalize checkIns id (sinceEvaluate h) = n
  have hzero : UInt32.ofNat n = 0 ↔ UInt32.size ∣ n := by
    rw [← UInt32.toNat_inj, UInt32.toNat_ofNat, Nat.dvd_iff_mod_eq_zero]
    rfl
  rw [← hzero]
  constructor
  · intro hsame
    exact UInt32.left_eq_add.mp hsame.symm
  · intro hn
    rw [hn, UInt32.add_zero]

theorem knows_checkIn (hk : Knows h w) (id : TaskId) :
    Knows (⟨w, (.checkIn id, []), w.checkIn id⟩ :: h) (w.checkIn id) := by
  have hother : (w.checkIn id).windowPrimed = w.windowPrimed ∧ (w.checkIn id).hwArmed = w.hwArmed ∧
      (w.checkIn id).lastSeen = w.lastSeen := by
    unfold Watchdog.checkIn
    dsimp only
    split <;> exact ⟨rfl, rfl, rfl⟩
  rcases hother with ⟨hprimed, harmed, hseen⟩
  refine ⟨?_, ?_, ?_⟩
  · rw [hprimed, hk.primed]
    unfold Primed
    simp [WatchdogCall.isEvaluate]
  · intro task htask
    rw [sinceEvaluate_checkIn rfl, checkIns_cons]
    have hbefore := hk.beats task htask
    simp only [hseen]
    by_cases hsame : task = id
    · subst hsame
      have hbeat : (w.checkIn task).beats.get htask.slot = w.beats.get htask.slot + 1 := by
        simp only [Watchdog.checkIn, show task.index < kTaskCount from htask, dif_pos]
        exact Vector.getElem_set_self htask
      rw [hbeat, hbefore, if_pos rfl, UInt32.add_assoc]
      rw [UInt32.ofNat_add]
      rfl
    · have hindex : id.index ≠ task.index := fun h => hsame (TaskId.index_inj h).symm
      have hbeat : (w.checkIn id).beats.get htask.slot = w.beats.get htask.slot := by
        unfold Watchdog.checkIn
        dsimp only
        split
        · exact Vector.getElem_set_ne (‹id.index < kTaskCount›) htask hindex
        · rfl
      have hlabel : ¬ (WatchdogCall.checkIn id = .checkIn task) := by
        intro heq
        cases heq
        exact hsame rfl
      rw [hbeat, hbefore, if_neg hlabel, Nat.add_zero]
  · intro hw task htask
    rw [harmed] at hw
    have hpos := hk.armed hw task htask
    rw [checkIns_cons]
    omega

theorem knows_evaluate (hk : Knows h w) (enabled : Bool) :
    Knows (⟨w, (.evaluate enabled, (w.evaluate enabled).2), (w.evaluate enabled).1⟩ :: h)
      (w.evaluate enabled).1 := by
  have hwindow : (w.evaluate enabled).1.windowPrimed = true ∧
      (w.evaluate enabled).1.beats = w.beats ∧ (w.evaluate enabled).1.lastSeen = w.beats := by
    cases hprimed : w.windowPrimed with
    | false =>
      rw [Watchdog.evaluate_unprimed hprimed]
      exact ⟨rfl, rfl, rfl⟩
    | true =>
      have heval := Watchdog.evaluated enabled hprimed
      exact ⟨heval.primed, heval.beats, heval.lastSeen⟩
  rcases hwindow with ⟨hprimed', hbeats, hseen⟩
  refine ⟨?_, ?_, ?_⟩
  · rw [hprimed']
    exact iff_of_true rfl ⟨_, List.mem_cons_self .., rfl⟩
  · intro id hid
    rw [sinceEvaluate_evaluate rfl]
    simp only [hbeats, hseen]
    exact (UInt32.add_zero _).symm
  · intro harmed id hid
    rw [checkIns_cons, if_neg (by simp)]
    cases hprimed : w.windowPrimed with
    | false =>
      rw [Watchdog.evaluate_unprimed hprimed] at harmed
      exact hk.armed harmed id hid
    | true =>
      have heval := Watchdog.evaluated enabled hprimed
      rcases heval.armed harmed with hbefore | hcall
      · exact hk.armed hbefore id hid
      · have hclear := heval.alive _ hcall id hid
        have hne : w.beats.get hid.monitored.slot ≠ w.lastSeen.get hid.monitored.slot := by
          intro hsame
          rw [(heval.missed id hid.monitored).mpr hsame] at hclear
          cases hclear
        have hpos := hk.advanced hid.monitored hne
        have hle := checkIns_sinceEvaluate_le id h
        omega

theorem knows_of_run (run : WatchdogRun h w) : Knows h w := by
  refine Run.history_invariant Knows ?_ ?_ run
  · refine ⟨?_, ?_, ?_⟩
    · simp [Primed, Watchdog.init]
    · intro id hid
      simp [checkIns, sinceEvaluate, Watchdog.init]
    · intro harmed
      cases harmed
  · rintro h w ⟨call, calls⟩ w' - hk hstep
    cases call with
    | checkIn id =>
      cases hstep
      exact knows_checkIn hk id
    | evaluate enabled =>
      have hout : w.evaluate enabled = (w', calls) := hstep
      have hnext := knows_evaluate hk enabled
      rw [hout] at hnext
      exact hnext

/-- **The watchdog reports the tasks that stood still.** After any run, an evaluation of a primed window
sets the bit of a monitored task exactly when its check-ins since the evaluation before are none, or a
multiple of the range of the counter. It pets the hardware watchdog only when every critical task has
checked in since then, and arms it only when every critical task has done so at all. -/
theorem watchdog_exact (run : WatchdogRun h w) (enabled : Bool) :
    (Primed h → ∀ id : TaskId, id.Monitored →
      ((w.evaluate enabled).1.missedMask.toNat.testBit id.index = true ↔
        UInt32.size ∣ checkIns id (sinceEvaluate h)) ∧
      (¬ (0 < checkIns id (sinceEvaluate h) ∧ UInt32.size ∣ checkIns id (sinceEvaluate h)) →
        ((w.evaluate enabled).1.missedMask.toNat.testBit id.index = true ↔
          checkIns id (sinceEvaluate h) = 0))) ∧
    (.hwPet ∈ (w.evaluate enabled).2 →
      Primed h ∧ ∀ id : TaskId, id.Critical → 0 < checkIns id (sinceEvaluate h)) ∧
    (.hwEnable ∈ (w.evaluate enabled).2 → ∀ id : TaskId, id.Critical → 0 < checkIns id h) ∧
    (w.hwArmed = true → ∀ id : TaskId, id.Critical → 0 < checkIns id h) := by
  have hk := knows_of_run run
  -- the hardware is touched by an evaluation of a primed window only
  have htouched : ∀ call ∈ (w.evaluate enabled).2,
      Primed h ∧ ∀ id : TaskId, id.Critical → 0 < checkIns id (sinceEvaluate h) := by
    intro call hcall
    cases hprimed : w.windowPrimed with
    | false =>
      rw [Watchdog.evaluate_unprimed hprimed] at hcall
      cases hcall
    | true =>
      have heval := Watchdog.evaluated enabled hprimed
      refine ⟨hk.primed.mp hprimed, fun id hid => hk.advanced hid.monitored ?_⟩
      intro hsame
      have hclear := heval.alive call hcall id hid
      rw [(heval.missed id hid.monitored).mpr hsame] at hclear
      cases hclear
  refine ⟨?_, htouched _, ?_, hk.armed⟩
  · intro hprimed id hid
    have heval := Watchdog.evaluated enabled (hk.primed.mpr hprimed)
    have hmissed := (heval.missed id hid).trans (hk.still_iff hid)
    refine ⟨hmissed, fun hwrap => hmissed.trans ⟨fun hdvd => ?_, fun hzero => ?_⟩⟩
    · rcases Nat.eq_zero_or_pos (checkIns id (sinceEvaluate h)) with hzero | hpos
      · exact hzero
      · exact absurd ⟨hpos, hdvd⟩ hwrap
    · rw [hzero]
      exact Nat.dvd_zero _
  · intro hcall id hid
    have hpos := (htouched _ hcall).2 id hid
    have hle := checkIns_sinceEvaluate_le id h
    omega

def silentRc : List WatchdogCall :=
  [.evaluate true, .checkIn .control, .checkIn .dxl, .checkIn .api, .checkIn .control]

theorem watchdog_exact_silentRc :
    ((record Watchdog.call {} [] silentRc).1.evaluate true).1.missedMask.toNat.testBit
        TaskId.rc.index = true ∧
      ((record Watchdog.call {} [] silentRc).1.evaluate true).2 = [.hwEnable, .hwPet] ∧
      ∀ id : TaskId, id.Critical →
        0 < checkIns id (sinceEvaluate (record Watchdog.call {} [] silentRc).2) := by
  have hexact := watchdog_exact (run_record Watchdog.call silentRc .nil) true
  refine ⟨?_, by decide, ?_⟩
  · refine ((hexact.1 ?_ .rc (by unfold TaskId.Monitored; decide)).2 ?_).mpr ?_
    · unfold Primed
      decide
    · decide
    · decide
  · exact (hexact.2.1 (by decide)).2

end Runs

end HexapodVerified.Safety
