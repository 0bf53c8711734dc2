import HexapodVerified.Config.Proofs.ValidateProofs
import HexapodVerified.Input.ControllerBridge

/-!
# Calibrated readings

A validated calibration has one channel for each source, with a range that is not empty and, for a
gimbal, a centre strictly inside it. A reading is then a scale of the raw value: of two pieces that meet
in the centre for a gimbal, and of one for a knob.
-/

namespace HexapodVerified.Input

open HexapodVerified.Config FloatArith

section Scales

variable {lo mid hi x : ℤ}

/-- The scale from -1 to 1 with its zero in the middle. -/
noncomputable def centred (lo mid hi x : ℤ) : ℝ :=
  if mid ≤ x then ((x - mid : ℤ) : ℝ) / ((hi - mid : ℤ) : ℝ)
  else ((x - mid : ℤ) : ℝ) / ((mid - lo : ℤ) : ℝ)

/-- The scale from 0 to 1. -/
noncomputable def unital (lo hi x : ℤ) : ℝ := ((x - lo : ℤ) : ℝ) / ((hi - lo : ℤ) : ℝ)

theorem unital_strictMono (hlt : lo < hi) : StrictMono (unital lo hi) := by
  intro x y hxy
  have hpos : (0 : ℝ) < ((hi - lo : ℤ) : ℝ) := Int.cast_pos.mpr (by omega)
  have hlt' : ((x - lo : ℤ) : ℝ) < ((y - lo : ℤ) : ℝ) := Int.cast_lt.mpr (by omega)
  exact div_lt_div_of_pos_right hlt' hpos

theorem unital_low : unital lo hi lo = 0 := by
  unfold unital
  rw [sub_self, Int.cast_zero, zero_div]

theorem unital_high (hlt : lo < hi) : unital lo hi hi = 1 := by
  have hne : ((hi - lo : ℤ) : ℝ) ≠ 0 := Int.cast_ne_zero.mpr (by omega)
  exact div_self hne

theorem centred_upper (hx : mid ≤ x) : centred lo mid hi x = unital mid hi x := if_pos hx

theorem centred_lower (hlo : lo < mid) (hx : x ≤ mid) :
    centred lo mid hi x = unital lo mid x - 1 := by
  have hne : ((mid - lo : ℤ) : ℝ) ≠ 0 := Int.cast_ne_zero.mpr (by omega)
  rcases hx.lt_or_eq with hlt | rfl
  · unfold centred unital
    rw [if_neg (not_le.mpr hlt), eq_sub_iff_add_eq, div_add_one hne, ← Int.cast_add]
    congr 2
    omega
  · rw [centred_upper le_rfl, unital_low, unital_high hlo, sub_self]

theorem centred_strictMono (hlo : lo < mid) (hhi : mid < hi) : StrictMono (centred lo mid hi) := by
  intro x y hxy
  rcases le_or_gt mid x with hx | hx
  · rw [centred_upper hx, centred_upper (hx.trans hxy.le)]
    exact unital_strictMono hhi hxy
  · rcases le_total mid y with hy | hy
    · -- the middle separates the two
      have hleft := unital_strictMono hlo hx
      have hright := (unital_strictMono hhi).monotone hy
      rw [unital_high hlo] at hleft
      rw [unital_low] at hright
      rw [centred_lower hlo hx.le, centred_upper hy]
      linarith
    · rw [centred_lower hlo hx.le, centred_lower hlo hy]
      exact sub_lt_sub_right (unital_strictMono hlo hxy) 1

theorem centred_low (hlo : lo < mid) : centred lo mid hi lo = -1 := by
  rw [centred_lower hlo hlo.le, unital_low, zero_sub]

theorem centred_mid : centred lo mid hi mid = 0 := by
  rw [centred_upper le_rfl, unital_low]

theorem centred_high (hhi : mid < hi) : centred lo mid hi hi = 1 := by
  rw [centred_upper hhi.le, unital_high hhi]

end Scales

variable {c : RcChannelCalibration} {raw : Int16} {low high : ℝ} {read : Int16 → Option ℝ}

def InRawWindow (c : RcChannelCalibration) (raw : Int16) : Prop :=
  c.min_raw.toInt - 64 ≤ raw.toInt ∧ raw.toInt ≤ c.max_raw.toInt + 64

/-- A reading from `low` to `high` that follows the raw value, or runs against it where the channel is
reversed. It is at an end exactly where the raw value is, or beyond it. -/
structure Reads (c : RcChannelCalibration) (low high : ℝ) (read : Int16 → Option ℝ) : Prop where
  accepts : ∀ raw, (read raw).isSome = true ↔ InRawWindow c raw
  bounds : ∀ raw v, read raw = some v → low ≤ v ∧ v ≤ high
  monotone : c.reversed = 0 → ∀ x y v w, x ≤ y → read x = some v → read y = some w → v ≤ w
  antitone : c.reversed ≠ 0 → ∀ x y v w, x ≤ y → read x = some v → read y = some w → w ≤ v
  low_end : ∀ raw v, read raw = some v →
    (v = (if c.reversed = 0 then low else high) ↔ raw ≤ c.min_raw)
  high_end : ∀ raw v, read raw = some v →
    (v = (if c.reversed = 0 then high else low) ↔ c.max_raw ≤ raw)

theorem rawWithinCalibrationWindow_iff :
    ControllerBridge.rawWithinCalibrationWindow raw c = true ↔ InRawWindow c raw := by
  unfold ControllerBridge.rawWithinCalibrationWindow InRawWindow
  rw [Bool.and_eq_true, decide_eq_true_eq, decide_eq_true_eq]

theorem clampRaw_toInt (hrange : c.min_raw.toInt < c.max_raw.toInt) (raw : Int16) :
    (ControllerBridge.clampRaw c raw).toInt =
      max c.min_raw.toInt (min c.max_raw.toInt raw.toInt) := by
  unfold ControllerBridge.clampRaw
  split_ifs with hlow hhigh
  · have hlt := Int16.lt_iff_toInt_lt.mp hlow
    omega
  · have hlt := Int16.lt_iff_toInt_lt.mp hhigh
    omega
  · have hge : ¬ raw.toInt < c.min_raw.toInt := fun h => hlow (Int16.lt_iff_toInt_lt.mpr h)
    have hle : ¬ c.max_raw.toInt < raw.toInt := fun h => hhigh (Int16.lt_iff_toInt_lt.mpr h)
    omega

/-- The value of a scale, turned round where the channel is reversed. -/
noncomputable def oriented (c : RcChannelCalibration) (low high v : ℝ) : ℝ :=
  if c.reversed ≠ 0 then low + high - v else v

theorem oriented_eq_low {v : ℝ} :
    oriented c low high v = (if c.reversed = 0 then low else high) ↔ v = low := by
  unfold oriented
  by_cases hkept : c.reversed = 0
  · rw [if_neg (not_not.mpr hkept), if_pos hkept]
  · rw [if_pos hkept, if_neg hkept]
    constructor <;> intro h <;> linarith

theorem oriented_eq_high {v : ℝ} :
    oriented c low high v = (if c.reversed = 0 then high else low) ↔ v = high := by
  unfold oriented
  by_cases hkept : c.reversed = 0
  · rw [if_neg (not_not.mpr hkept), if_pos hkept]
  · rw [if_pos hkept, if_neg hkept]
    constructor <;> intro h <;> linarith

theorem reads_of_scale {scale : ℤ → ℝ} (hrange : c.min_raw.toInt < c.max_raw.toInt)
    (hstrict : StrictMono scale) (hlow : scale c.min_raw.toInt = low)
    (hhigh : scale c.max_raw.toInt = high)
    (hread : ∀ raw, read raw = if ControllerBridge.rawWithinCalibrationWindow raw c then
      some (clampf (oriented c low high (scale (ControllerBridge.clampRaw c raw).toInt)) low high)
      else none) : Reads c low high read := by
  have hclamp := clampRaw_toInt hrange
  have hmono := hstrict.monotone
  have hbounds : ∀ raw, low ≤ scale (ControllerBridge.clampRaw c raw).toInt ∧
      scale (ControllerBridge.clampRaw c raw).toInt ≤ high := by
    intro raw
    rw [hclamp, ← hlow, ← hhigh]
    exact ⟨hmono (by omega), hmono (by omega)⟩
  have horiented : ∀ raw,
      low ≤ oriented c low high (scale (ControllerBridge.clampRaw c raw).toInt) ∧
        oriented c low high (scale (ControllerBridge.clampRaw c raw).toInt) ≤ high := by
    intro raw
    obtain ⟨hlo, hhi⟩ := hbounds raw
    unfold oriented
    split_ifs
    · constructor <;> linarith
    · exact ⟨hlo, hhi⟩
  have hvalue : ∀ raw v, read raw = some v →
      v = oriented c low high (scale (ControllerBridge.clampRaw c raw).toInt) := by
    intro raw v hv
    rw [hread, clampf_of_mem (horiented raw).1 (horiented raw).2] at hv
    split_ifs at hv
    exact (Option.some.inj hv).symm
  have horder : ∀ x y : Int16, x ≤ y → scale (ControllerBridge.clampRaw c x).toInt ≤
      scale (ControllerBridge.clampRaw c y).toInt := by
    intro x y hxy
    have hle := Int16.le_iff_toInt_le.mp hxy
    rw [hclamp, hclamp]
    exact hmono (by omega)
  refine
    { accepts := fun raw => ?_
      bounds := fun raw v hv => ?_
      monotone := fun hkept x y v w hxy hv hw => ?_
      antitone := fun hreversed x y v w hxy hv hw => ?_
      low_end := fun raw v hv => ?_
      high_end := fun raw v hv => ?_ }
  · rw [hread, ← rawWithinCalibrationWindow_iff]
    split_ifs with hin
    · exact iff_of_true rfl hin
    · exact iff_of_false (by simp) hin
  · rw [hvalue raw v hv]
    exact horiented raw
  · rw [hvalue x v hv, hvalue y w hw]
    unfold oriented
    rw [if_neg (not_not.mpr hkept), if_neg (not_not.mpr hkept)]
    exact horder x y hxy
  · rw [hvalue x v hv, hvalue y w hw]
    unfold oriented
    rw [if_pos hreversed, if_pos hreversed]
    exact sub_le_sub_left (horder x y hxy) _
  · have hend : scale (ControllerBridge.clampRaw c raw).toInt = low ↔ raw ≤ c.min_raw := by
      rw [← hlow, hstrict.injective.eq_iff, hclamp, Int16.le_iff_toInt_le]
      omega
    rw [hvalue raw v hv, ← hend]
    exact oriented_eq_low
  · have hend : scale (ControllerBridge.clampRaw c raw).toInt = high ↔ c.max_raw ≤ raw := by
      rw [← hhigh, hstrict.injective.eq_iff, hclamp, Int16.le_iff_toInt_le]
      omega
    rw [hvalue raw v hv, ← hend]
    exact oriented_eq_high

namespace ControllerBridge

variable {b : ControllerBridge ℝ} {source : UInt8}

theorem readCalibratedBipolar_eq (hc : b.calibrationFor source = some c)
    (htype : c.type = rcCenteredAnalog) (raw : Int16) :
    b.readCalibratedBipolar source raw = if rawWithinCalibrationWindow raw c then
      some (clampf (oriented c (-1) 1
        (centred c.min_raw.toInt c.center_raw.toInt c.max_raw.toInt (clampRaw c raw).toInt)) (-1) 1)
      else none := by
  have hneg : (lit (-1) : ℝ) = -1 := by
    rw [lit_exact]
    norm_num
  have hone : (lit 1 : ℝ) = 1 := Rat.cast_one
  unfold readCalibratedBipolar centred oriented
  rw [hc]
  dsimp only
  cases hin : rawWithinCalibrationWindow raw c with
  | false => simp
  | true =>
    simp only [htype, hneg, hone, ofInt_exact, neg_add_cancel, zero_sub]
    simp

theorem readCalibratedUnipolar_eq (hc : b.calibrationFor source = some c)
    (htype : c.type = rcUnipolarAnalog) (raw : Int16) :
    b.readCalibratedUnipolar source raw = if rawWithinCalibrationWindow raw c then
      some (clampf (oriented c 0 1
        (unital c.min_raw.toInt c.max_raw.toInt (clampRaw c raw).toInt)) 0 1)
      else none := by
  have hzero : (lit 0 : ℝ) = 0 := Rat.cast_zero
  have hone : (lit 1 : ℝ) = 1 := Rat.cast_one
  unfold readCalibratedUnipolar unital oriented
  rw [hc]
  dsimp only
  cases hin : rawWithinCalibrationWindow raw c with
  | false => simp
  | true =>
    simp only [htype, hzero, hone, ofInt_exact, zero_add]
    simp

theorem calibrationFor_of_valid (hv : validateRcInputCalibration b.calibration = true)
    (hsource : 1 ≤ source.toNat ∧ source.toNat ≤ 8) :
    (b.calibration.channels.toList.map (·.source)).count source = 1 ∧
      ∃ c, b.calibrationFor source = some c ∧ c.source = source ∧ RcChannelValid c := by
  obtain ⟨hchannels, hfresh⟩ := validateRcChannels_iff.mp hv
  have hnodup : (b.calibration.channels.toList.map (·.source)).Nodup := hfresh.1
  have hmem : source ∈ b.calibration.channels.toList.map (·.source) :=
    mem_rcSources hv hsource
  refine ⟨List.count_eq_one_of_mem hnodup hmem, ?_⟩
  have hfound : b.calibrationFor source =
      b.calibration.channels.toList.find? (·.source == source) := by
    have h0 : (0 : UInt8).toNat = 0 := rfl
    unfold calibrationFor
    rw [if_neg]
    rw [Bool.or_eq_true, beq_iff_eq, decide_eq_true_eq, ← UInt8.toNat_inj, h0]
    show ¬ (source.toNat = 0 ∨ source.toNat > 8)
    omega
  obtain ⟨c', hc', hsrc'⟩ := List.mem_map.mp hmem
  cases hfind : b.calibration.channels.toList.find? (·.source == source) with
  | none =>
    have hno := List.find?_eq_none.mp hfind c' hc'
    exact absurd (beq_iff_eq.mpr hsrc') hno
  | some c =>
    have hc := List.mem_of_find?_eq_some hfind
    have hat := List.find?_some hfind
    have hsrc : c.source = source := beq_iff_eq.mp hat
    obtain ⟨hrange, hok⟩ := hchannels c hc
    exact ⟨c, hfound.trans hfind, hsrc, rcChannelValid_of_validate hrange hok⟩

/-- In a validated calibration every source has exactly one channel. A gimbal is read from -1 to 1 with
its zero in the centre, a knob from 0 to 1, and an encoder by neither reading; none divides by zero. -/
theorem calibrated_reads (hv : validateRcInputCalibration b.calibration = true)
    (hsource : 1 ≤ source.toNat ∧ source.toNat ≤ 8) :
    (b.calibration.channels.toList.map (·.source)).count source = 1 ∧
    ∃ c, b.calibrationFor source = some c ∧ c.source = source ∧
      (source.toNat ≤ 4 → Reads c (-1) 1 (b.readCalibratedBipolar source) ∧
        b.readCalibratedBipolar source c.center_raw = some 0 ∧
        c.max_raw.toInt - c.center_raw.toInt ≠ 0 ∧ c.center_raw.toInt - c.min_raw.toInt ≠ 0) ∧
      (5 ≤ source.toNat → source.toNat ≤ 6 → Reads c 0 1 (b.readCalibratedUnipolar source) ∧
        c.max_raw.toInt - c.min_raw.toInt ≠ 0) ∧
      (5 ≤ source.toNat → ∀ raw, b.readCalibratedBipolar source raw = none) ∧
      (¬ (5 ≤ source.toNat ∧ source.toNat ≤ 6) → ∀ raw, b.readCalibratedUnipolar source raw = none) := by
  obtain ⟨hcount, c, hc, hsrc, hvalid⟩ := calibrationFor_of_valid hv hsource
  have hrange := hvalid.range
  refine ⟨hcount, c, hc, hsrc, fun hgimbal => ?_, fun hlo hhi => ?_, fun hother raw => ?_,
    fun hother raw => ?_⟩
  · obtain ⟨htype, hlow, hhigh⟩ := hvalid.gimbal (hsrc ▸ hgimbal)
    have hreads := reads_of_scale hrange (centred_strictMono hlow hhigh) (centred_low hlow)
      (centred_high hhigh) (readCalibratedBipolar_eq hc htype)
    refine ⟨hreads, ?_, by omega, by omega⟩
    have hin : rawWithinCalibrationWindow c.center_raw c = true :=
      rawWithinCalibrationWindow_iff.mpr ⟨by omega, by omega⟩
    have hcentre : (clampRaw c c.center_raw).toInt = c.center_raw.toInt := by
      rw [clampRaw_toInt hrange]
      omega
    rw [readCalibratedBipolar_eq hc htype, if_pos hin, hcentre, centred_mid, clampf_of_mem]
    · unfold oriented
      split_ifs
      · norm_num
      · rfl
    · unfold oriented
      split_ifs <;> norm_num
    · unfold oriented
      split_ifs <;> norm_num
  · have htype := hvalid.knob (hsrc ▸ hlo) (hsrc ▸ hhi)
    exact ⟨reads_of_scale hrange (unital_strictMono hrange) unital_low (unital_high hrange)
      (readCalibratedUnipolar_eq hc htype), by omega⟩
  · have htype : c.type ≠ rcCenteredAnalog := by
      by_cases hknob : source.toNat ≤ 6
      · rw [hvalid.knob (hsrc ▸ hother) (hsrc ▸ hknob)]
        decide
      · rw [hvalid.encoder (hsrc ▸ (by omega))]
        decide
    unfold readCalibratedBipolar
    rw [hc]
    exact if_pos (by simp [htype])
  · have htype : c.type ≠ rcUnipolarAnalog := by
      by_cases hgimbal : source.toNat ≤ 4
      · rw [(hvalid.gimbal (hsrc ▸ hgimbal)).1]
        decide
      · rw [hvalid.encoder (hsrc ▸ (by omega))]
        decide
    unfold readCalibratedUnipolar
    rw [hc]
    exact if_pos (by simp [htype])

/-- The left gimbal with the compiled calibration. -/
theorem calibrated_reads_default : ∃ c, (construct (F := ℝ)).calibrationFor 1 = some c ∧
    Reads c (-1) 1 ((construct (F := ℝ)).readCalibratedBipolar 1) := by
  have hv : validateRcInputCalibration (construct (F := ℝ)).calibration = true := by
    show validateRcInputCalibration defaultRcInputCalibration = true
    decide
  have hsource : 1 ≤ (1 : UInt8).toNat ∧ (1 : UInt8).toNat ≤ 8 := by decide
  obtain ⟨-, c, hc, -, hgimbal, -⟩ := calibrated_reads hv hsource
  exact ⟨c, hc, (hgimbal (by decide)).1⟩

end ControllerBridge

end HexapodVerified.Input
