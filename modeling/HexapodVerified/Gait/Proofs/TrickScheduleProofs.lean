import HexapodVerified.Gait.TrickEngine

/-!
# The schedule of a trick

A pass through the loop of `update` either leaves it or consumes a segment, so the loop ends, inside the
keyframe table. An interval that is cut in two passes the same segments: where the first part leaves the loop
within a segment, the second goes on from there, and the outputs written in between are written over. What is
not is the height of a frame that leaves the height alone, and the time that a held program goes on counting.
-/

namespace HexapodVerified.Gait

open HexapodVerified.Config FloatArith Loops Transition

variable {F : Type} [FloatArith F]

namespace TrickPlayer

section Pass

variable {prog : TrickProgram F} {p : TrickPlayer F} {kf : TrickKeyframe F}

def next (prog : TrickProgram F) (seg : UInt8) : Option UInt8 :=
  if seg.toNat + 1 < prog.frames.length then some (seg + 1) else if prog.loop then some 0 else none

def finish (p : TrickPlayer F) (kf : TrickKeyframe F) : TrickPlayer F :=
  { p with seg_elapsed_ms := p.seg_elapsed_ms - TrickEngine.segmentMs kf }.captureTargets kf

def ended (prog : TrickProgram F) (p : TrickPlayer F) (kf : TrickKeyframe F) : TrickPlayer F :=
  if prog.hold_last then { p.writeOutputs kf (lit 1) with held := true }
  else { p with active := false, out := { p.out with active := false } }

theorem pass_of_lt (hkf : prog.frames[p.seg.toNat]? = some kf)
    (h : p.seg_elapsed_ms < TrickEngine.segmentMs kf) :
    pass prog p = some (.done (p.writeOutputs kf
      (ofUInt32 p.seg_elapsed_ms / ofUInt32 (TrickEngine.segmentMs kf)))) := by
  unfold pass
  rw [hkf]
  exact if_pos h

theorem pass_of_next (hkf : prog.frames[p.seg.toNat]? = some kf)
    (h : ¬ p.seg_elapsed_ms < TrickEngine.segmentMs kf) {seg : UInt8} (hnext : next prog p.seg = some seg) :
    pass prog p = some (.again { p.finish kf with seg }) := by
  unfold pass
  rw [hkf]
  dsimp only
  rw [if_neg h]
  unfold next at hnext
  split_ifs at hnext with hlast hloop
  · cases hnext
    exact if_pos hlast
  · cases hnext
    exact (if_neg hlast).trans (if_pos hloop)

theorem pass_of_over (hkf : prog.frames[p.seg.toNat]? = some kf)
    (h : ¬ p.seg_elapsed_ms < TrickEngine.segmentMs kf) (hnext : next prog p.seg = none) :
    pass prog p = some (.done ((p.finish kf).ended prog kf)) := by
  unfold pass
  rw [hkf]
  dsimp only
  rw [if_neg h]
  unfold next at hnext
  split_ifs at hnext with hlast hloop
  refine (if_neg hlast).trans ((if_neg hloop).trans ?_)
  unfold ended
  split_ifs with hhold
  · rfl
  · rfl

omit [FloatArith F] in
theorem next_lt (hcount : prog.frames.length < 256) {seg seg' : UInt8} (hseg : seg.toNat < prog.frames.length)
    (h : next prog seg = some seg') : seg'.toNat < prog.frames.length := by
  unfold next at h
  split_ifs at h with hlast hloop
  · cases h
    have hsum : (seg + 1).toNat = seg.toNat + 1 := by
      rw [UInt8.toNat_add]
      exact Nat.mod_eq_of_lt (by simp only [UInt8.toNat_one]; omega)
    rwa [hsum]
  · cases h
    exact Nat.lt_of_le_of_lt (Nat.zero_le _) hseg

end Pass

structure Playing (prog : TrickProgram F) (p : TrickPlayer F) : Prop where
  active : p.active = true
  held : p.held = false
  plays : p.prog = some prog
  counted : prog.frames.length < 256
  seg : p.seg.toNat < prog.frames.length

/-- While a trick is active, its segment is one of its program, and, unless it is held, not over. -/
def Sound (p : TrickPlayer F) : Prop :=
  p.active = true → ∃ prog, p.prog = some prog ∧ prog.frames.length < 256 ∧
    p.seg.toNat < prog.frames.length ∧ (p.held = false → ∀ kf, prog.frames[p.seg.toNat]? = some kf →
      p.seg_elapsed_ms < TrickEngine.segmentMs kf)

section Loop

variable {prog : TrickProgram F} {p q : TrickPlayer F}

omit [FloatArith F] in
theorem Playing.exists_frame (hp : Playing prog p) : ∃ kf, prog.frames[p.seg.toNat]? = some kf :=
  ⟨_, List.getElem?_eq_getElem hp.seg⟩

theorem Playing.next (hp : Playing prog p) {kf : TrickKeyframe F}
    (h : ¬ p.seg_elapsed_ms < TrickEngine.segmentMs kf) {seg : UInt8}
    (hnext : TrickPlayer.next prog p.seg = some seg) :
    Playing prog { p.finish kf with seg } ∧
      (p.finish kf).seg_elapsed_ms.toNat + (TrickEngine.segmentMs kf).toNat = p.seg_elapsed_ms.toNat := by
  refine ⟨⟨hp.active, hp.held, hp.plays, hp.counted, next_lt hp.counted hp.seg hnext⟩, ?_⟩
  have hle := UInt32.not_lt.mp h
  show (p.seg_elapsed_ms - TrickEngine.segmentMs kf).toNat + _ = _
  rw [UInt32.toNat_sub_of_le _ _ hle]
  exact Nat.sub_add_cancel (UInt32.le_iff_toNat_le.mp hle)

theorem Playing.pass_cases (hp : Playing prog p) : ∃ kf, prog.frames[p.seg.toNat]? = some kf ∧
    ((p.seg_elapsed_ms < TrickEngine.segmentMs kf ∧ pass prog p = some (.done (p.writeOutputs kf
        (ofUInt32 p.seg_elapsed_ms / ofUInt32 (TrickEngine.segmentMs kf))))) ∨
      (¬ p.seg_elapsed_ms < TrickEngine.segmentMs kf ∧ ∃ seg, TrickPlayer.next prog p.seg = some seg ∧
        pass prog p = some (.again { p.finish kf with seg })) ∨
      (¬ p.seg_elapsed_ms < TrickEngine.segmentMs kf ∧ TrickPlayer.next prog p.seg = none ∧
        pass prog p = some (.done ((p.finish kf).ended prog kf)))) := by
  rcases hp.exists_frame with ⟨kf, hkf⟩
  refine ⟨kf, hkf, ?_⟩
  by_cases h : p.seg_elapsed_ms < TrickEngine.segmentMs kf
  · exact .inl ⟨h, pass_of_lt hkf h⟩
  · right
    cases hnext : TrickPlayer.next prog p.seg with
    | some seg => exact .inl ⟨h, seg, rfl, pass_of_next hkf h hnext⟩
    | none => exact .inr ⟨h, rfl, pass_of_over hkf h hnext⟩

theorem Playing.sound_of_done (hp : Playing prog p) (h : pass prog p = some (.done q)) : Sound q := by
  rcases hp.pass_cases with ⟨kf, hkf, hcase⟩
  rcases hcase with ⟨hlt, hpass⟩ | ⟨-, seg, -, hpass⟩ | ⟨-, -, hpass⟩
  · cases hpass.symm.trans h
    refine fun _ => ⟨prog, hp.plays, hp.counted, hp.seg, fun _ kf' hkf' => ?_⟩
    cases hkf.symm.trans hkf'
    exact hlt
  · cases hpass.symm.trans h
  · cases hpass.symm.trans h
    unfold ended
    split_ifs
    · exact fun _ => ⟨prog, hp.plays, hp.counted, hp.seg, fun hheld => (by cases hheld)⟩
    · intro hactive
      cases hactive

end Loop

def UniformHeight (prog : TrickProgram F) : Prop :=
  (∀ kf ∈ prog.frames, le (lit 0) kf.height_frac = true) ∨
    ∀ kf ∈ prog.frames, le (lit 0) kf.height_frac = false

/-- Two players that differ in the outputs; in a program that never sets the height, the heights are alike. -/
structure Twin (prog : TrickProgram F) (p p' : TrickPlayer F) : Prop where
  rest : p = { p' with out := p.out }
  height : (∀ kf ∈ prog.frames, le (lit 0) kf.height_frac = false) →
    p.out.body_height_frac = p'.out.body_height_frac

/-- The outputs are alike where they count: the height, where it is set. -/
structure SameOutputs (prog : TrickProgram F) (out out' : TrickOutput F) : Prop where
  rest : out = { out' with body_height_frac := out.body_height_frac }
  height : out'.override_height = true ∨ UniformHeight prog →
    out.body_height_frac = out'.body_height_frac

/-- Two players are at the same place: they differ in the outputs, which are alike while a trick is active, and
in the time, which is alike unless the trick is held. -/
structure SameSchedule (p p' : TrickPlayer F) : Prop where
  rest : p = { p' with seg_elapsed_ms := p.seg_elapsed_ms, out := p.out }
  elapsed : p'.active = true → p'.held = false → p.seg_elapsed_ms = p'.seg_elapsed_ms
  outputs : p'.active = true → ∀ prog, p'.prog = some prog → SameOutputs prog p.out p'.out

section Twin

variable {prog : TrickProgram F} {p p' q : TrickPlayer F} {kf : TrickKeyframe F}

theorem Twin.writeOutputs (h : Twin prog p p') (hkf : kf ∈ prog.frames) (t : F) :
    SameOutputs prog (p.writeOutputs kf t).out (p'.writeOutputs kf t).out := by
  have horigin : p.origin = p'.origin := by
    rw [h.rest]
  unfold TrickPlayer.writeOutputs TrickEngine.writeOutputs shown
  rw [horigin]
  refine ⟨rfl, ?_⟩
  dsimp only
  rintro (hset | hset | hset)
  · rw [if_pos hset, if_pos hset]
  · rw [if_pos (hset kf hkf), if_pos (hset kf hkf)]
  · rw [hset kf hkf]
    exact h.height hset

theorem Twin.pass (h : Twin prog p p') (hp' : Playing prog p') :
    (∃ q q', TrickPlayer.pass prog p = some (.again q) ∧ TrickPlayer.pass prog p' = some (.again q') ∧
      Twin prog q q' ∧ Playing prog q') ∨
    ∃ q q', TrickPlayer.pass prog p = some (.done q) ∧ TrickPlayer.pass prog p' = some (.done q') ∧
      SameSchedule q q' := by
  have hseg : p.seg = p'.seg := by
    rw [h.rest]
  have htime : p.seg_elapsed_ms = p'.seg_elapsed_ms := by
    rw [h.rest]
  have hfinish : ∀ kf, Twin prog (p.finish kf) (p'.finish kf) := by
    intro kf
    refine ⟨?_, h.height⟩
    rw [h.rest]
    rfl
  rcases hp'.pass_cases with ⟨kf, hkf, hcase⟩
  have hkf' : prog.frames[p.seg.toNat]? = some kf := by rwa [hseg]
  have hmem := List.mem_of_getElem? hkf
  rcases hcase with ⟨hlt, hpass⟩ | ⟨hge, seg, hnext, hpass⟩ | ⟨hge, hnext, hpass⟩
  · refine .inr ⟨_, _, pass_of_lt hkf' (by rwa [htime]), hpass, ?_, fun _ _ => htime, fun _ prog' hplays => ?_⟩
    · rw [h.rest]
      rfl
    · cases hp'.plays.symm.trans hplays
      rw [htime]
      exact h.writeOutputs hmem _
  · refine .inl ⟨_, _, pass_of_next hkf' (by rwa [htime]) (by rwa [hseg]), hpass, ?_,
      (hp'.next hge hnext).1⟩
    refine ⟨?_, h.height⟩
    rw [h.rest]
    rfl
  · refine .inr ⟨_, _, pass_of_over hkf' (by rwa [htime]) (by rwa [hseg]), hpass, ?_⟩
    have htwin := hfinish kf
    unfold ended
    split_ifs
    · refine ⟨?_, fun _ hheld => (by cases hheld), fun _ prog' hplays => ?_⟩
      · rw [h.rest]
        rfl
      · cases hp'.plays.symm.trans hplays
        exact htwin.writeOutputs hmem _
    · refine ⟨?_, fun hactive => (by cases hactive), fun hactive => (by cases hactive)⟩
      rw [h.rest]
      rfl

theorem Twin.loop (h : Twin prog p p') (hp' : Playing prog p') {n m : Nat} (hnm : n ≤ m)
    (hloop : Loops.loop (TrickPlayer.pass prog) n p = some q) :
    ∃ q', Loops.loop (TrickPlayer.pass prog) m p' = some q' ∧ SameSchedule q q' := by
  refine loop_lockstep (fun p p' => Twin prog p p' ∧ Playing prog p') SameSchedule ?_ ⟨h, hp'⟩
    hnm hloop
  rintro s s' ⟨htwin, hs'⟩
  exact htwin.pass hs'

end Twin

def later (dt_ms : UInt32) (p : TrickPlayer F) : TrickPlayer F :=
  { p with seg_elapsed_ms := p.seg_elapsed_ms + dt_ms }

section Split

variable {prog : TrickProgram F} {p q : TrickPlayer F} {a b : UInt32}

omit [FloatArith F] in
theorem Playing.later (hp : Playing prog p) (dt_ms : UInt32) : Playing prog (p.later dt_ms) :=
  ⟨hp.active, hp.held, hp.plays, hp.counted, hp.seg⟩

omit [FloatArith F] in
theorem later_toNat (hroom : p.seg_elapsed_ms.toNat + b.toNat < 2 ^ 32) :
    (p.later b).seg_elapsed_ms.toNat = p.seg_elapsed_ms.toNat + b.toNat := by
  show (p.seg_elapsed_ms + b).toNat = _
  rw [UInt32.toNat_add]
  exact Nat.mod_eq_of_lt hroom

omit [FloatArith F] in
theorem later_over (hroom : p.seg_elapsed_ms.toNat + b.toNat < 2 ^ 32) {kf : TrickKeyframe F}
    (h : ¬ p.seg_elapsed_ms < TrickEngine.segmentMs kf) :
    ¬ (p.later b).seg_elapsed_ms < TrickEngine.segmentMs kf := by
  intro hlt
  have hlater := UInt32.lt_iff_toNat_lt.mp hlt
  have htime := UInt32.le_iff_toNat_le.mp (UInt32.not_lt.mp h)
  rw [later_toNat hroom] at hlater
  omega

theorem Playing.update_later (hp : Playing prog p) (dt_ms : UInt32) :
    p.update dt_ms false =
      let shown := p.later (if dt_ms > TrickEngine.kMaxAdvanceMs then TrickEngine.kMaxAdvanceMs else dt_ms)
      Loops.loop (pass prog) (shown.seg_elapsed_ms.toNat + 1) shown := by
  have hactive : ¬ (!p.active) = true := by simp [hp.active]
  have hheld : ¬ p.held = true := by simp [hp.held]
  unfold TrickPlayer.update
  rw [if_neg hactive, if_neg Bool.false_ne_true, if_neg hheld]
  dsimp only
  generalize (if dt_ms > TrickEngine.kMaxAdvanceMs then TrickEngine.kMaxAdvanceMs else dt_ms) = taken
  split
  case h_1 hnone => cases hnone.symm.trans hp.plays
  case h_2 prog' hsome =>
    cases hsome.symm.trans hp.plays
    rfl

theorem Playing.update (hp : Playing prog p) (hdt : a ≤ TrickEngine.kMaxAdvanceMs) :
    p.update a false = Loops.loop (pass prog) ((p.later a).seg_elapsed_ms.toNat + 1) (p.later a) := by
  rw [hp.update_later, if_neg (UInt32.not_lt.mpr hdt)]

theorem update_idle (h : p.active = false) (dt_ms : UInt32) (sticks_active : Bool) :
    p.update dt_ms sticks_active = some { p with out := { p.out with active := false } } := by
  unfold TrickPlayer.update
  rw [h]
  rfl

theorem update_sticks (h : p.active = true) (dt_ms : UInt32) : p.update dt_ms true = some p.cancel := by
  unfold TrickPlayer.update
  rw [h]
  rfl

theorem update_held (hactive : p.active = true) (hheld : p.held = true) (dt_ms : UInt32) :
    p.update dt_ms false = some p := by
  unfold TrickPlayer.update
  rw [hactive, hheld]
  rfl

/-- The segments that are over within the first part are over within the whole. -/
theorem Playing.split (hp : Playing prog p) (hroom : p.seg_elapsed_ms.toNat + b.toNat < 2 ^ 32) :
    ∃ q, Loops.loop (pass prog) (p.seg_elapsed_ms.toNat + 1) p = some q ∧
      ∃ s m, Playing prog s ∧ pass prog s = some (.done q) ∧
        s.seg_elapsed_ms.toNat + b.toNat < m ∧ m ≤ 2 ^ 32 ∧
        Loops.loop (pass prog) (p.seg_elapsed_ms.toNat + b.toNat + 1) (p.later b) =
          Loops.loop (pass prog) m (s.later b) := by
  refine loop_rule
    (fun s => Playing prog s ∧ ∃ m, s.seg_elapsed_ms.toNat + b.toNat < m ∧ m ≤ 2 ^ 32 ∧
      Loops.loop (pass prog) (p.seg_elapsed_ms.toNat + b.toNat + 1) (p.later b) =
        Loops.loop (pass prog) m (s.later b))
    (fun q => ∃ s m, Playing prog s ∧ pass prog s = some (.done q) ∧
      s.seg_elapsed_ms.toNat + b.toNat < m ∧ m ≤ 2 ^ 32 ∧
      Loops.loop (pass prog) (p.seg_elapsed_ms.toNat + b.toNat + 1) (p.later b) =
        Loops.loop (pass prog) m (s.later b))
    (fun s => s.seg_elapsed_ms.toNat) ?_ ⟨hp, _, Nat.lt_succ_self _, hroom, rfl⟩ (Nat.lt_succ_self _)
  rintro s ⟨hs, m, hm, hmax, hwhole⟩
  rcases hs.pass_cases with ⟨kf, hkf, hcase⟩
  rcases hcase with ⟨hlt, hpass⟩ | ⟨hge, seg, hnext, hpass⟩ | ⟨hge, hnext, hpass⟩
  · exact .inr ⟨_, hpass, s, m, hs, hpass, hm, hmax, hwhole⟩
  · rcases hs.next hge hnext with ⟨hplaying, htime⟩
    have hpos := TrickEngine.segmentMs_pos kf
    refine .inl ⟨_, hpass, by dsimp only; omega, hplaying, m - 1, by dsimp only; omega, by omega, ?_⟩
    -- the whole passes the segment too
    have hpass' : pass prog (s.later b) = some (.again { (s.later b).finish kf with seg }) :=
      pass_of_next (p := s.later b) hkf (later_over (by omega) hge) hnext
    have hsame : ({ (s.later b).finish kf with seg } : TrickPlayer F) =
        ({ s.finish kf with seg } : TrickPlayer F).later b := by
      have hsub : s.seg_elapsed_ms + b - TrickEngine.segmentMs kf =
          s.seg_elapsed_ms - TrickEngine.segmentMs kf + b := by grind
      unfold finish TrickPlayer.later captureTargets
      rw [hsub]
      rfl
    rcases Nat.exists_eq_add_of_le' (Nat.lt_of_le_of_lt (Nat.zero_le _) hm) with ⟨k, rfl⟩
    rw [hwhole, show k + (0 + 1) = k + 1 from rfl, loop_of_again hpass', hsame]
    rfl
  · exact .inr ⟨_, hpass, s, m, hs, hpass, hm, hmax, hwhole⟩

theorem Playing.loop (hp : Playing prog p) :
    ∃ q, Loops.loop (pass prog) (p.seg_elapsed_ms.toNat + 1) p = some q ∧ Sound q := by
  rcases hp.split (b := 0) p.seg_elapsed_ms.toNat_lt with ⟨q, hq, s, m, hs, hdone, -⟩
  exact ⟨q, hq, hs.sound_of_done hdone⟩

omit [FloatArith F] in
theorem segmentMs_lt (kf : TrickKeyframe F) : (TrickEngine.segmentMs kf).toNat < 65536 := by
  unfold TrickEngine.segmentMs
  split_ifs
  · rw [UInt16.toNat_toUInt32]
    exact UInt16.toNat_lt kf.duration_ms
  · decide

/-- A frame that has been written over leaves two players in step. -/
theorem twin_writeOutputs {s : TrickPlayer F} {kf : TrickKeyframe F} (hkf : kf ∈ prog.frames) (t : F)
    (dt_ms : UInt32) : Twin prog ((s.writeOutputs kf t).later dt_ms) (s.later dt_ms) := by
  refine ⟨rfl, fun hnever => ?_⟩
  show (if le (lit 0) kf.height_frac = true then _ else s.out.body_height_frac) = _
  rw [hnever kf hkf]
  rfl

/-- Behind the program, more time changes nothing but the time. -/
theorem sameSchedule_ended {s : TrickPlayer F} {kf : TrickKeyframe F} (hs : s.active = true)
    (dt_ms : UInt32) : ∃ r, ((s.finish kf).ended prog kf).update dt_ms false = some r ∧
      SameSchedule r (((s.later dt_ms).finish kf).ended prog kf) := by
  unfold ended
  split_ifs
  · refine ⟨{ (s.finish kf).writeOutputs kf (lit 1) with held := true }, ?_, ?_⟩
    · apply update_held
      · exact hs
      · rfl
    · exact ⟨rfl, fun _ hheld => (by cases hheld), fun _ _ _ => ⟨rfl, fun _ => rfl⟩⟩
  · refine ⟨_, update_idle rfl dt_ms false, ?_⟩
    exact ⟨rfl, fun hactive => (by cases hactive), fun hactive => (by cases hactive)⟩

theorem Playing.update_update (hp : Playing prog p) (hsum : a.toNat + b.toNat ≤ 1000)
    (htime : p.seg_elapsed_ms.toNat < 65536) : ∃ q r t, p.update a false = some q ∧
      q.update b false = some r ∧ p.update (a + b) false = some t ∧ SameSchedule r t := by
  have hab : (a + b).toNat = a.toNat + b.toNat := by
    rw [UInt32.toNat_add]
    exact Nat.mod_eq_of_lt (by omega)
  have hlimit : TrickEngine.kMaxAdvanceMs.toNat = 1000 := rfl
  have ha : (p.later a).seg_elapsed_ms.toNat = p.seg_elapsed_ms.toNat + a.toNat :=
    later_toNat (by omega)
  have hwhole : (p.later a).later b = p.later (a + b) := by
    show ({ p with seg_elapsed_ms := p.seg_elapsed_ms + a + b } : TrickPlayer F) = _
    rw [UInt32.add_assoc]
    rfl
  have hfuel : (p.later (a + b)).seg_elapsed_ms.toNat = (p.later a).seg_elapsed_ms.toNat + b.toNat := by
    rw [← hwhole]
    exact later_toNat (by omega)
  rw [hp.update (UInt32.le_iff_toNat_le.mpr (by omega)), hp.update (UInt32.le_iff_toNat_le.mpr (by omega)),
    hfuel, ← hwhole]
  rcases (hp.later a).split (b := b) (by omega) with ⟨q, hfirst, s, m, hs, hdone, hm, hmax, hrest⟩
  rw [hfirst, hrest]
  rcases hs.pass_cases with ⟨kf, hkf, hcase⟩
  rcases hcase with ⟨hlt, hpass⟩ | ⟨-, seg, -, hpass⟩ | ⟨hge, hnext, hpass⟩
  · -- the first part ends within a segment
    cases hpass.symm.trans hdone
    have hq : Playing prog (s.writeOutputs kf
        (ofUInt32 s.seg_elapsed_ms / ofUInt32 (TrickEngine.segmentMs kf))) :=
      ⟨hs.active, hs.held, hs.plays, hs.counted, hs.seg⟩
    have hlater := later_toNat (p := s) (b := b) (by omega)
    rcases (hq.later b).loop with ⟨r, hr, -⟩
    have htwin := twin_writeOutputs (s := s) (List.mem_of_getElem? hkf)
      (ofUInt32 s.seg_elapsed_ms / ofUInt32 (TrickEngine.segmentMs kf)) b
    have hless : (s.later b).seg_elapsed_ms.toNat + 1 ≤ m := by omega
    rcases htwin.loop (hs.later b) hless hr with ⟨t, ht, hsame⟩
    refine ⟨_, r, t, rfl, ?_, ht, hsame⟩
    rw [hq.update (UInt32.le_iff_toNat_le.mpr (by omega))]
    exact hr
  · cases hpass.symm.trans hdone
  · -- the first part has the whole program behind it
    cases hpass.symm.trans hdone
    rcases sameSchedule_ended hs.active b with ⟨r, hr, hsame⟩
    have hpass' := pass_of_over (p := s.later b) hkf (later_over (by omega) hge) hnext
    rcases Nat.exists_eq_add_of_le' (Nat.lt_of_le_of_lt (Nat.zero_le _) hm) with ⟨k, rfl⟩
    exact ⟨_, r, _, rfl, hr, loop_of_done hpass' k, hsame⟩

end Split

section Calls

variable {p q : TrickPlayer F}

omit [FloatArith F] in
theorem Sound.playing (h : Sound p) (hactive : p.active = true) (hheld : p.held = false) :
    ∃ prog, Playing prog p ∧ p.seg_elapsed_ms.toNat < 65536 := by
  rcases h hactive with ⟨prog, hplays, hcount, hseg, hsegment⟩
  have hp : Playing prog p := ⟨hactive, hheld, hplays, hcount, hseg⟩
  rcases hp.exists_frame with ⟨kf, hkf⟩
  exact ⟨prog, hp, (UInt32.lt_iff_toNat_lt.mp (hsegment hheld kf hkf)).trans (segmentMs_lt kf)⟩

def started (p : TrickPlayer F) (trick : TrickId) (prog : TrickProgram F) (kf : TrickKeyframe F)
    (entry_height_frac : F) : TrickPlayer F :=
  { p with
    prog := some prog
    trick := trick
    active := true
    held := false
    seg := 0
    seg_elapsed_ms := 0
    origin := ⟨lit 0, lit 0, lit 0, lit 0, lit 0, lit 0, lit 0, lit 0, lit 0,
      clamp01 entry_height_frac⟩ : TrickPlayer F }.writeOutputs kf (lit 0)

theorem play_of_nil {prog : TrickProgram F} (h : prog.frames = []) (trick : TrickId)
    (entry_height_frac : F) : p.play trick prog entry_height_frac = p := by
  unfold play
  rw [h]

theorem play_of_cons {prog : TrickProgram F} {kf : TrickKeyframe F} {frames : List (TrickKeyframe F)}
    (h : prog.frames = kf :: frames) (trick : TrickId) (entry_height_frac : F) :
    p.play trick prog entry_height_frac = p.started trick prog kf entry_height_frac := by
  unfold play
  rw [h]
  rfl

theorem sound_play (h : Sound p) (trick : TrickId) {prog : TrickProgram F}
    (hcount : prog.frames.length < 256) (entry_height_frac : F) :
    Sound (p.play trick prog entry_height_frac) := by
  by_cases hframes : prog.frames = []
  · rw [play_of_nil hframes]
    exact h
  · rcases List.exists_cons_of_ne_nil hframes with ⟨kf, frames, hframes⟩
    rw [play_of_cons hframes]
    refine fun _ => ⟨prog, rfl, hcount, ?_, fun _ kf' _ => ?_⟩
    · rw [hframes]
      exact Nat.succ_pos _
    · exact UInt32.lt_iff_toNat_lt.mpr (TrickEngine.segmentMs_pos kf')

theorem selectProgram_counted (e : TrickEngine F) (trick : TrickId) (prog : TrickProgram F)
    (h : (e.selectProgram trick).2 = some prog) : prog.frames.length < 256 := by
  unfold TrickEngine.selectProgram at h
  split at h
  all_goals
    cases h
    try split_ifs
    all_goals exact Nat.le_of_ble_eq_true rfl

theorem sound_trigger (h : Sound p) (trick : TrickId) (entry_height_frac : F) :
    Sound (p.trigger trick entry_height_frac) := by
  unfold trigger
  split_ifs
  · intro hactive
    cases hactive
  · have hselected := selectProgram_counted (p.shown none) trick
    generalize (p.shown none).selectProgram trick = selection at hselected ⊢
    rcases selection with ⟨e, selected⟩
    have hkept : Sound { p with crouched := e.crouched } := h
    cases selected with
    | none => exact hkept
    | some prog => exact sound_play hkept trick (hselected prog rfl) entry_height_frac

theorem sound_update (h : Sound p) (dt_ms : UInt32) (sticks_active : Bool) :
    ∃ q, p.update dt_ms sticks_active = some q ∧ Sound q := by
  rcases Bool.eq_false_or_eq_true p.active with hactive | hidle
  · cases sticks_active with
    | true =>
      refine ⟨_, update_sticks hactive dt_ms, fun hcancelled => ?_⟩
      cases hcancelled
    | false =>
      rcases Bool.eq_false_or_eq_true p.held with hheld | hheld
      · exact ⟨p, update_held hactive hheld dt_ms, h⟩
      · rcases h.playing hactive hheld with ⟨prog, hp, -⟩
        rw [hp.update_later]
        exact (hp.later _).loop
  · refine ⟨_, update_idle hidle dt_ms sticks_active, fun hactive => ?_⟩
    cases hidle.symm.trans hactive

theorem sound_of_run {h : List (Event (TrickPlayer F) (PlayerCall F))} (run : PlayerRun h p) : Sound p := by
  refine run.invariant Sound (fun hactive => (by cases hactive)) ?_
  intro p call q hp hcall
  cases call with
  | reset =>
    cases hcall
    intro hactive
    cases hactive
  | cancel =>
    cases hcall
    intro hactive
    cases hactive
  | trigger trick entry_height_frac =>
    cases hcall
    exact sound_trigger hp trick entry_height_frac
  | play trick prog entry_height_frac =>
    cases hcall
    exact sound_play hp trick prog.property entry_height_frac
  | update dt_ms sticks_active =>
    rcases sound_update hp dt_ms sticks_active with ⟨r, hr, hsound⟩
    cases hr.symm.trans hcall
    exact hsound

end Calls

/-! ## The engine -/

inductive Plays (p : TrickPlayer F) : TrickEngine F → Prop where
  | idle (hidle : p.active = false) : Plays p (p.shown none)
  | running {prog : TrickProgram F} (hactive : p.active = true) (hplays : p.prog = some prog)
      (hseg : p.seg.toNat < prog.frames.length) :
      Plays p (p.shown (some ⟨prog, ⟨p.seg.toNat, hseg⟩, p.seg_elapsed_ms, p.held⟩))

section Engine

variable {prog : TrickProgram F} {p q : TrickPlayer F} {e : TrickEngine F}

omit [FloatArith F] in
theorem Plays.shown (h : Plays p e) : ∃ running, e = p.shown running := by
  cases h with
  | idle => exact ⟨_, rfl⟩
  | running => exact ⟨_, rfl⟩

theorem Playing.advance (hp : Playing prog p) (running : Option (TrickPosition F)) {n : Nat}
    (hn : p.seg_elapsed_ms.toNat < n) : ∃ q, Loops.loop (pass prog) n p = some q ∧
      Plays q ((p.shown running).advance prog ⟨p.seg.toNat, hp.seg⟩ p.seg_elapsed_ms) := by
  refine loop_rule
    (fun s => ∃ hs : Playing prog s, (p.shown running).advance prog ⟨p.seg.toNat, hp.seg⟩ p.seg_elapsed_ms =
      (s.shown running).advance prog ⟨s.seg.toNat, hs.seg⟩ s.seg_elapsed_ms)
    (fun q => Plays q ((p.shown running).advance prog ⟨p.seg.toNat, hp.seg⟩ p.seg_elapsed_ms))
    (fun s => s.seg_elapsed_ms.toNat) ?_ ⟨hp, rfl⟩ hn
  rintro s ⟨hs, hengine⟩
  rw [hengine, TrickEngine.advance]
  rcases hs.pass_cases with ⟨kf, hkf, hcase⟩
  have hget : prog.frames.get ⟨s.seg.toNat, hs.seg⟩ = kf :=
    Option.some.inj ((List.getElem?_eq_getElem hs.seg).symm.trans hkf)
  rw [hget]
  rcases hcase with ⟨hlt, hpass⟩ | ⟨hge, seg, hnext, hpass⟩ | ⟨hge, hnext, hpass⟩
  · refine .inr ⟨_, hpass, ?_⟩
    rw [dif_pos hlt]
    have hplays := Plays.running (p := s.writeOutputs kf
      (ofUInt32 s.seg_elapsed_ms / ofUInt32 (TrickEngine.segmentMs kf))) hs.active hs.plays hs.seg
    rw [show (s.writeOutputs kf _).held = false from hs.held] at hplays
    exact hplays
  · rcases hs.next hge hnext with ⟨hplaying, htime⟩
    have hpos := TrickEngine.segmentMs_pos kf
    refine .inl ⟨_, hpass, by dsimp only; omega, hplaying, ?_⟩
    rw [dif_neg hge]
    unfold TrickPlayer.next at hnext
    split_ifs at hnext with hlast hloop
    · cases hnext
      rw [dif_pos hlast]
      have hindex : (s.seg + 1).toNat = s.seg.toNat + 1 := by
        rw [UInt8.toNat_add]
        exact Nat.mod_eq_of_lt (by have := hs.counted; simp only [UInt8.toNat_one]; omega)
      simp only [hindex]
      rfl
    · cases hnext
      rw [dif_neg hlast, if_pos hloop]
      rfl
  · refine .inr ⟨_, hpass, ?_⟩
    rw [dif_neg hge]
    unfold TrickPlayer.next at hnext
    split_ifs at hnext with hlast hloop
    rw [dif_neg hlast, if_neg hloop]
    unfold ended
    split_ifs
    · exact .running (p := { (s.finish kf).writeOutputs kf (lit 1) with held := true }) hs.active
        hs.plays hs.seg
    · exact .idle rfl

theorem Plays.update (h : Plays p e) (hsound : Sound p) (dt_ms : UInt32) (sticks_active : Bool) :
    ∃ q, p.update dt_ms sticks_active = some q ∧ Plays q (e.update dt_ms sticks_active) := by
  cases h with
  | idle hidle =>
    refine ⟨_, update_idle hidle dt_ms sticks_active, ?_⟩
    exact .idle (p := { p with out := { p.out with active := false } }) hidle
  | running hactive hplays hseg =>
    cases sticks_active with
    | true => exact ⟨_, update_sticks hactive dt_ms, .idle rfl⟩
    | false =>
      rcases Bool.eq_false_or_eq_true p.held with hheld | hheld
      · refine ⟨p, update_held hactive hheld dt_ms, ?_⟩
        unfold TrickEngine.update TrickPlayer.shown
        dsimp only
        rw [if_neg Bool.false_ne_true, if_pos hheld]
        exact .running hactive hplays hseg
      · rcases hsound.playing hactive hheld with ⟨prog, hp, -⟩
        cases hp.plays.symm.trans hplays
        rw [hp.update_later]
        unfold TrickEngine.update
        dsimp only [TrickPlayer.shown]
        have hgoes : ¬ p.held = true := by simp [hheld]
        rw [if_neg Bool.false_ne_true, if_neg hgoes]
        exact (hp.later _).advance _ (Nat.lt_succ_self _)

theorem selectProgram_shown (p : TrickPlayer F) (trick : TrickId) : ∃ crouched selected, ∀ running,
    (p.shown running).selectProgram trick = ({ p with crouched }.shown running, selected) := by
  cases trick with
  | crouchToggle =>
    exact ⟨!p.crouched, some (if !p.crouched then kCrouchDownProg else kCrouchUpProg), fun _ => rfl⟩
  | _ => exact ⟨p.crouched, _, fun _ => rfl⟩

omit [FloatArith F] in
/-- Only the latch and where it is in its program change. -/
theorem Plays.crouched {running : Option (TrickPosition F)} (h : Plays p (p.shown running))
    (crouched : Bool) : Plays { p with crouched } ({ p with crouched }.shown running) := by
  generalize hshown : p.shown running = e at h
  cases h with
  | idle hidle =>
    cases congrArg TrickEngine.running hshown
    exact .idle (p := { p with crouched }) hidle
  | running hactive hplays hseg =>
    cases congrArg TrickEngine.running hshown
    exact .running (p := { p with crouched }) hactive hplays hseg

theorem Plays.trigger (h : Plays p e) (trick : TrickId) (entry_height_frac : F) :
    Plays (p.trigger trick entry_height_frac) (e.trigger trick entry_height_frac) := by
  rcases h.shown with ⟨running, rfl⟩
  unfold TrickPlayer.trigger TrickEngine.trigger
  split_ifs
  · exact .idle rfl
  · rcases selectProgram_shown p trick with ⟨crouched, selected, hselect⟩
    rw [hselect, hselect]
    cases selected with
    | none => exact h.crouched crouched
    | some prog =>
      dsimp only
      by_cases hframes : prog.frames = []
      · rw [play_of_nil hframes, dif_neg (by rw [hframes]; exact Nat.lt_irrefl 0)]
        exact h.crouched crouched
      · rcases List.exists_cons_of_ne_nil hframes with ⟨kf, frames, hframes⟩
        have hpos : 0 < prog.frames.length := by
          rw [hframes]
          exact Nat.succ_pos _
        have hget : prog.frames.get ⟨0, hpos⟩ = kf := by
          simp [hframes]
        rw [play_of_cons hframes, dif_pos hpos, hget]
        exact .running (p := started _ trick prog kf entry_height_frac) rfl rfl hpos

/-- The calls the engine has; only programs of the table can be given to it. -/
def onEngine : PlayerCall F → Option (TrickEngine F → TrickEngine F)
  | .reset => some fun _ => .reset
  | .cancel => some TrickEngine.cancel
  | .trigger trick entry_height_frac => some fun e => e.trigger trick entry_height_frac
  | .play _ _ _ => none
  | .update dt_ms sticks_active => some fun e => e.update dt_ms sticks_active

/-- **The engine simulates the player.** Every call of the engine keeps the two together. -/
theorem plays_call (h : Plays p e) (hsound : Sound p) {call : PlayerCall F}
    {f : TrickEngine F → TrickEngine F} (hcall : onEngine call = some f) :
    ∃ q, p.call call = some q ∧ Sound q ∧ Plays q (f e) := by
  cases call with
  | reset =>
    cases hcall
    exact ⟨_, rfl, fun hactive => (by cases hactive), .idle rfl⟩
  | cancel =>
    cases hcall
    rcases h.shown with ⟨running, rfl⟩
    exact ⟨_, rfl, fun hactive => (by cases hactive), .idle rfl⟩
  | trigger trick entry_height_frac =>
    cases hcall
    exact ⟨_, rfl, sound_trigger hsound trick entry_height_frac, h.trigger trick entry_height_frac⟩
  | play => cases hcall
  | update dt_ms sticks_active =>
    cases hcall
    rcases sound_update hsound dt_ms sticks_active with ⟨q, hq, hnext⟩
    rcases h.update hsound dt_ms sticks_active with ⟨r, hr, hplays⟩
    cases hq.symm.trans hr
    exact ⟨q, hq, hnext, hplays⟩

/-- A call of the engine; it has none that gives it a program. -/
def engineCall (e : TrickEngine F) (call : PlayerCall F) : TrickEngine F :=
  match onEngine call with
  | some f => f e
  | none => e

theorem plays_calls {calls : List (PlayerCall F)} (hcalls : ∀ call ∈ calls, (onEngine call).isSome = true)
    (h : Plays p e) (hsound : Sound p) :
    ∃ q, calls.foldlM TrickPlayer.call p = some q ∧ Plays q (calls.foldl engineCall e) := by
  induction calls generalizing p e with
  | nil => exact ⟨p, rfl, h⟩
  | cons call calls ih =>
    obtain ⟨hcall, hcalls⟩ := List.forall_mem_cons.mp hcalls
    obtain ⟨f, hf⟩ := Option.isSome_iff_exists.mp hcall
    obtain ⟨q, hq, hsound', hplays⟩ := plays_call h hsound hf
    obtain ⟨r, hr, hplays'⟩ := ih hcalls hplays hsound'
    refine ⟨r, ?_, ?_⟩
    · rw [List.foldlM_cons, hq]
      exact hr
    · rw [List.foldl_cons]
      unfold engineCall
      rw [hf]
      exact hplays'

/-- Over all calls the player stays inside the keyframes of its program and shows what the engine shows,
which cannot leave them. -/
theorem player_shows_engine {calls : List (PlayerCall F)}
    (hcalls : ∀ call ∈ calls, (onEngine call).isSome = true) :
    ∃ q, calls.foldlM TrickPlayer.call (TrickPlayer.reset : TrickPlayer F) = some q ∧
      q.out = (calls.foldl engineCall TrickEngine.reset).out ∧
      q.crouched = (calls.foldl engineCall TrickEngine.reset).crouched := by
  have hsound : Sound (TrickPlayer.reset : TrickPlayer F) := fun hactive => (by cases hactive)
  obtain ⟨q, hq, hplays⟩ := plays_calls hcalls (.idle rfl) hsound
  obtain ⟨running, hshown⟩ := hplays.shown
  exact ⟨q, hq, (congrArg TrickEngine.out hshown).symm, (congrArg TrickEngine.crouched hshown).symm⟩

theorem player_shows_engine_stretch :
    ∃ q, [.trigger .stretch (lit 0), .update 20 false, .cancel].foldlM TrickPlayer.call
        (TrickPlayer.reset : TrickPlayer ℝ) = some q ∧
      q.out = ([.trigger .stretch (lit 0), .update 20 false, .cancel].foldl engineCall
        (TrickEngine.reset : TrickEngine ℝ)).out ∧
      q.crouched = ([.trigger .stretch (lit 0), .update 20 false, .cancel].foldl engineCall
        (TrickEngine.reset : TrickEngine ℝ)).crouched :=
  player_shows_engine (by simp [onEngine])

end Engine

theorem uniform_of_never {prog : TrickProgram ℝ} (h : ∀ kf ∈ prog.frames, kf.height_frac < 0) :
    UniformHeight prog := by
  refine .inr fun kf hkf => Bool.eq_false_iff.mpr fun hset => ?_
  have hpos := le_exact.mp hset
  rw [lit_exact, Rat.cast_zero] at hpos
  exact absurd (h kf hkf) (not_lt.mpr hpos)

theorem uniform_of_always {prog : TrickProgram ℝ} (h : ∀ kf ∈ prog.frames, 0 ≤ kf.height_frac) :
    UniformHeight prog := by
  refine .inl fun kf hkf => le_exact.mpr ?_
  rw [lit_exact, Rat.cast_zero]
  exact h kf hkf

theorem uniform_of_table (e : TrickEngine ℝ) (trick : TrickId) {prog : TrickProgram ℝ}
    (h : (e.selectProgram trick).2 = some prog) : UniformHeight prog := by
  cases trick with
  | none => cases h
  | wave =>
    cases h
    exact uniform_of_never (by simp [kWaveProg, trickFrame, lit_exact])
  | twirl =>
    cases h
    exact uniform_of_never (by simp [kTwirlProg, trickFrame, lit_exact])
  | leanLook =>
    cases h
    exact uniform_of_never (by simp [kLeanLookProg, trickFrame, lit_exact])
  | standUp =>
    cases h
    exact uniform_of_always (by norm_num [kStandUpProg, trickFrame, lit_exact])
  | sitDown =>
    cases h
    exact uniform_of_always (by norm_num [kSitDownProg, trickFrame, lit_exact])
  | crouchToggle =>
    cases h
    split_ifs
    · exact uniform_of_always (by norm_num [kCrouchDownProg, trickFrame, lit_exact])
    · exact uniform_of_always (by norm_num [kCrouchUpProg, trickFrame, lit_exact])
  | stretch =>
    cases h
    exact uniform_of_always (by norm_num [kStretchProg, trickFrame, lit_exact])
  | danceLoop =>
    cases h
    exact uniform_of_always (by norm_num [kDanceProg, trickFrame, lit_exact])
  | spiderAttack =>
    cases h
    exact uniform_of_always (by norm_num [kSpiderAttackProg, trickFrame, lit_exact])
  | jumpKick =>
    cases h
    exact uniform_of_always (by norm_num [kJumpKickProg, trickFrame, lit_exact])

theorem Sound.update_update {p : TrickPlayer F} (h : Sound p) {a b : UInt32} (hsum : a.toNat + b.toNat ≤ 1000) :
    ∃ q r t, p.update a false = some q ∧ q.update b false = some r ∧ p.update (a + b) false = some t ∧
      SameSchedule r t := by
  rcases Bool.eq_false_or_eq_true p.active with hactive | hidle
  · rcases Bool.eq_false_or_eq_true p.held with hheld | hheld
    · refine ⟨p, p, p, update_held hactive hheld a, update_held hactive hheld b,
        update_held hactive hheld (a + b), rfl, fun _ _ => rfl, fun _ _ _ => ⟨rfl, fun _ => rfl⟩⟩
    · rcases h.playing hactive hheld with ⟨prog, hp, htime⟩
      exact hp.update_update hsum htime
  · have hidle' := update_idle (p := { p with out := { p.out with active := false } }) hidle b false
    refine ⟨_, _, _, update_idle hidle a false, hidle', update_idle hidle (a + b) false, ?_⟩
    refine ⟨rfl, fun _ _ => rfl, fun hactive => ?_⟩
    cases hidle.symm.trans hactive

end TrickPlayer

open TrickPlayer

/-- **The schedule of a trick.** In every state of the player, whatever programs it was given and at whatever
heights: while a trick is active its segment is one of its program; an update ends, without a read outside the
table; and an update of `a` and one of `b` come to where one of `a + b` comes to, up to 1000 ms. There everything
is the same but the elapsed time of a trick that is held or over, and the outputs of one that is over; where a
program sets the height in some frames only, the height counts where it is set. The programs of the table are
not such. -/
theorem schedule_independent {h : List (Event (TrickPlayer F) (PlayerCall F))} {p : TrickPlayer F}
    (run : PlayerRun h p) :
    (p.active = true → ∃ prog, p.prog = some prog ∧ p.seg.toNat < prog.frames.length) ∧
    (∀ dt_ms sticks_active, ∃ q, p.update dt_ms sticks_active = some q) ∧
    (∀ a b : UInt32, a.toNat + b.toNat ≤ 1000 → ∃ q r t, p.update a false = some q ∧
      q.update b false = some r ∧ p.update (a + b) false = some t ∧ SameSchedule r t) ∧
    ∀ (e : TrickEngine ℝ) (trick : TrickId) (prog : TrickProgram ℝ),
      (e.selectProgram trick).2 = some prog → UniformHeight prog := by
  have hsound := sound_of_run run
  refine ⟨fun hactive => ?_, fun dt_ms sticks_active => ?_, fun a b hsum => hsound.update_update hsum,
    fun e trick prog => uniform_of_table e trick⟩
  · rcases hsound hactive with ⟨prog, hplays, -, hseg, -⟩
    exact ⟨prog, hplays, hseg⟩
  · rcases sound_update hsound dt_ms sticks_active with ⟨q, hq, -⟩
    exact ⟨q, hq⟩

noncomputable def leaning : TrickPlayer ℝ := (reset : TrickPlayer ℝ).trigger .leanLook 0

theorem leaning_run : PlayerRun [⟨reset, .trigger .leanLook 0, leaning⟩] leaning :=
  Run.nil.step rfl

theorem schedule_independent_leaning : ∃ q r t, leaning.update 600 false = some q ∧
    q.update 100 false = some r ∧ leaning.update 700 false = some t ∧ SameSchedule r t :=
  (schedule_independent leaning_run).2.2.1 600 100 (by decide)

/-- A program whose second frame leaves the height alone. -/
noncomputable def bowProgram : CountedProgram ℝ :=
  ⟨⟨[trickFrame 100 .stand 0 0 0 0 0 0 0 0 0 0.5, trickFrame 100 .stand 0 0 0 0 0 0 0 0 0 (-1)], false, false⟩,
    by decide⟩

noncomputable def bowing : TrickPlayer ℝ := (reset : TrickPlayer ℝ).play .stretch bowProgram.val 0

theorem bowing_run : PlayerRun [⟨reset, .play .stretch bowProgram 0, bowing⟩] bowing :=
  Run.nil.step rfl

/-- A held trick counts the interval it was reached in, and a height that is not set is left from the last
update that set it. -/
theorem schedule_not_independent :
    (¬ ∀ (h : List (Event (TrickPlayer ℝ) (PlayerCall ℝ))) (p : TrickPlayer ℝ), PlayerRun h p →
      ∀ a b : UInt32, a.toNat + b.toNat ≤ 1000 → ∀ q r t, p.update a false = some q →
        q.update b false = some r → p.update (a + b) false = some t →
        r.seg_elapsed_ms = t.seg_elapsed_ms) ∧
    ¬ ∀ (h : List (Event (TrickPlayer ℝ) (PlayerCall ℝ))) (p : TrickPlayer ℝ), PlayerRun h p →
      ∀ a b : UInt32, a.toNat + b.toNat ≤ 1000 → ∀ q r t, p.update a false = some q →
        q.update b false = some r → p.update (a + b) false = some t → t.active = true →
        r.out = t.out := by
  constructor
  · intro hclaim
    have hsame := hclaim _ _ leaning_run 600 100 (by decide) _ _ _ rfl rfl rfl
    revert hsame
    decide
  · intro hclaim
    have hsame := hclaim _ _ bowing_run 50 100 (by decide) _ _ _ rfl rfl rfl rfl
    have hheight := congrArg TrickOutput.body_height_frac hsame
    have hset : le (lit 0 : ℝ) (lit 0.5) = true := by
      rw [le_exact, lit_exact, lit_exact]
      norm_num
    have hunset : ¬ le (lit 0 : ℝ) (lit (-1)) = true := by
      rw [le_exact, lit_exact, lit_exact]
      norm_num
    -- the first frame was written half way, or at its start
    change (if le (lit 0 : ℝ) (lit (-1)) = true then _ else
        if le (lit 0 : ℝ) (lit 0.5) = true then
          clamp01 (lerp (clamp01 0) (lit 0.5) (ofUInt32 50 / ofUInt32 100)) else _) =
      (if le (lit 0 : ℝ) (lit (-1)) = true then _ else
        if le (lit 0 : ℝ) (lit 0.5) = true then clamp01 (lerp (clamp01 0) (lit 0.5) (lit 0)) else _)
      at hheight
    rw [if_neg hunset, if_neg hunset, if_pos hset, if_pos hset] at hheight
    unfold clamp01 lerp ofUInt32 at hheight
    rw [show (50 : UInt32).toNat = 50 from rfl, show (100 : UInt32).toNat = 100 from rfl] at hheight
    norm_num [clampf_exact, lit_exact] at hheight

end HexapodVerified.Gait
