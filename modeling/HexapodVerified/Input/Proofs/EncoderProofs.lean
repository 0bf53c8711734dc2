import HexapodVerified.Input.Proofs.FailsafeProofs
import HexapodVerified.Lib.Tables

/-!
# The encoders of the custom controller

An encoder is read modulo 2048, and the bridge takes the shortest way round from one frame to the next.
As long as the wheel turns by less than half a turn between two frames, the displacements it adds up are
the true ones.
-/

namespace HexapodVerified.Input

open FloatArith PastTime Transition

variable {F : Type}

structure Wheel (F : Type) where
  last : Int32
  seen : Bool
  accum : F

/-- `integrateEncoders` on one encoder. -/
def Wheel.turn [FloatExp F] (w : Wheel F) (enc : Int32) : Wheel F :=
  if !w.seen then { w with last := enc, seen := true }
  else
    let d := enc - w.last
    let d := if d > 1024 then d - 2048 else d
    let d := if d < -1024 then d + 2048 else d
    { w with
      last := enc
      accum := clampf (w.accum + ofInt d.toInt / kEncoderCountsFullScale) (lit 0) (lit 1) }

/-- The positions of a wheel, latest first, added up from a start value: each displacement in fractions
of the full scale, with the sum held between zero and one. -/
noncomputable def integrate (start : ℝ) : List ℤ → ℝ
  | [] => start
  | [_] => start
  | q :: p :: track =>
    max 0 (min 1 (integrate start (p :: track) + ((q - p : ℤ) : ℝ) / ((128 : ℚ) : ℝ)))

def Shows (enc : Int32) (position : ℤ) : Prop := enc.toInt = position % 2048

instance (enc : Int32) (position : ℤ) : Decidable (Shows enc position) :=
  inferInstanceAs (Decidable (_ = _))

theorem clampf_unit (x : ℝ) : clampf x (lit 0) (lit 1) = max 0 (min 1 x) := by
  rw [lit_exact, lit_exact, Rat.cast_zero, Rat.cast_one]
  exact clampf_exact zero_le_one

theorem shortest_way {enc last : Int32} {p q : ℤ} (hlast : Shows last p) (henc : Shows enc q)
    (hslow : |q - p| < 1024) :
    (let d := enc - last
     let d := if d > 1024 then d - 2048 else d
     let d := if d < -1024 then d + 2048 else d
     d.toInt) = q - p := by
  have hsub (x y : Int32) (hlo : -4096 ≤ x.toInt - y.toInt) (hhi : x.toInt - y.toInt ≤ 4096) :
      (x - y).toInt = x.toInt - y.toInt := by
    rw [Int32.toInt_sub]
    exact Int.bmod_eq_of_le (by omega) (by omega)
  have hadd (x y : Int32) (hlo : -4096 ≤ x.toInt + y.toInt) (hhi : x.toInt + y.toInt ≤ 4096) :
      (x + y).toInt = x.toInt + y.toInt := by
    rw [Int32.toInt_add]
    exact Int.bmod_eq_of_le (by omega) (by omega)
  have h1024 : (1024 : Int32).toInt = 1024 := rfl
  have hneg : (-1024 : Int32).toInt = -1024 := rfl
  have h2048 : (2048 : Int32).toInt = 2048 := rfl
  unfold Shows at hlast henc
  obtain ⟨hlo, hhi⟩ := abs_lt.mp hslow
  have hd : (enc - last).toInt = q % 2048 - p % 2048 := by
    rw [hsub _ _ (by omega) (by omega)]
    omega
  dsimp only
  generalize enc - last = d at hd
  have hfirst : (if d > 1024 then d - 2048 else d).toInt =
      if q % 2048 - p % 2048 > 1024 then q % 2048 - p % 2048 - 2048 else q % 2048 - p % 2048 := by
    have hiff : d > 1024 ↔ q % 2048 - p % 2048 > 1024 := by
      rw [gt_iff_lt, Int32.lt_iff_toInt_lt, h1024, hd]
    by_cases h : d > 1024
    · rw [if_pos h, if_pos (hiff.mp h), hsub _ _ (by omega) (by omega), hd, h2048]
    · rw [if_neg h, if_neg (hiff.not.mp h), hd]
  generalize (if d > 1024 then d - 2048 else d) = d' at hfirst
  have hiff : d' < -1024 ↔ d'.toInt < -1024 := by
    rw [Int32.lt_iff_toInt_lt, hneg]
  by_cases h : d' < -1024
  · have hback := hiff.mp h
    rw [if_pos h, hadd _ _ (by omega) (by omega), h2048]
    omega
  · have hstay := hiff.not.mp h
    rw [if_neg h]
    omega

theorem Wheel.turn_seen {w : Wheel ℝ} {enc : Int32} {p q : ℤ} (hseen : w.seen = true)
    (hlast : Shows w.last p) (henc : Shows enc q) (hslow : |q - p| < 1024) :
    w.turn enc = ⟨enc, true, max 0 (min 1 (w.accum + ((q - p : ℤ) : ℝ) / ((128 : ℚ) : ℝ)))⟩ := by
  have hway := shortest_way hlast henc hslow
  have hscale : (kEncoderCountsFullScale : ℝ) = ((128 : ℚ) : ℝ) := lit_exact 128
  unfold turn
  rw [if_neg (by simp [hseen])]
  dsimp only at hway ⊢
  rw [hway, clampf_unit, ofInt_exact, hscale, hseen]

/-- The first position is only remembered. -/
theorem Wheel.turn_first [FloatExp F] {w : Wheel F} (hseen : w.seen = false) (enc : Int32) :
    w.turn enc = ⟨enc, true, w.accum⟩ := by
  unfold turn
  rw [if_pos (by simp [hseen])]

namespace ControllerBridge

def wheel (b : ControllerBridge F) (i : Fin 2) : Wheel F :=
  ⟨b.enc_last.get i, b.enc_seen.get i, b.enc_accum.get i⟩

/-! ## What a call does to a wheel -/

section Calls

variable [FloatExp F] (b : ControllerBridge F) (i : Fin 2)

theorem raw_integrateEncoder (j : Fin 2) : (b.integrateEncoder j).raw = b.raw := by
  unfold integrateEncoder
  split
  · rfl
  · rfl

theorem wheel_integrateEncoder : (b.integrateEncoder i).wheel i =
    (b.wheel i).turn (b.raw.encoder.get i) := by
  unfold integrateEncoder Wheel.turn wheel
  by_cases hnew : (!b.enc_seen.get i) = true
  · rw [if_pos hnew, if_pos hnew]
    simp only [Tables.get_set_self]
  · rw [if_neg hnew, if_neg hnew]
    simp only [Tables.get_set_self]

theorem wheel_integrateEncoder_of_ne {j : Fin 2} (hne : j ≠ i) :
    (b.integrateEncoder j).wheel i = b.wheel i := by
  unfold integrateEncoder wheel
  split
  · simp only [Tables.get_set_ne _ hne.symm]
  · simp only [Tables.get_set_ne _ hne.symm]

theorem wheel_integrateEncoders : b.integrateEncoders.wheel i =
    (b.wheel i).turn (b.raw.encoder.get i) := by
  unfold integrateEncoders
  by_cases hi : i = 0
  · subst hi
    rw [wheel_integrateEncoder_of_ne _ 0 (by decide), wheel_integrateEncoder]
  · obtain rfl : i = 1 := by omega
    rw [wheel_integrateEncoder, wheel_integrateEncoder_of_ne _ 1 (by decide),
      raw_integrateEncoder]

theorem wheel_decode (now_ms : UInt32) : (b.decode now_ms).wheel i = b.wheel i := by
  have hcore := core_decode b now_ms
  generalize b.decode now_ms = b' at hcore
  have hlast : b'.enc_last = b.enc_last := congrArg BridgeCore.enc_last hcore
  have hseen : b'.enc_seen = b.enc_seen := congrArg BridgeCore.enc_seen hcore
  have haccum : b'.enc_accum = b.enc_accum := congrArg BridgeCore.enc_accum hcore
  unfold wheel
  rw [hlast, hseen, haccum]

omit [FloatExp F] in
theorem wheel_attemptProfileDetection (ch : Channels) :
    (b.attemptProfileDetection ch).wheel i = b.wheel i := by
  unfold attemptProfileDetection
  dsimp only
  split_ifs <;> rfl

end Calls

variable {b : ControllerBridge ℝ} {c : Call ℝ} {h : List (Event (ControllerBridge ℝ) (Call ℝ))}
  {i : Fin 2} {position : ℕ → ℤ}

def CustomLocked (b : ControllerBridge F) : Prop :=
  b.profile_locked = true ∧ b.detected_profile = .customControllerChannelPack

instance (b : ControllerBridge F) : Decidable b.CustomLocked :=
  inferInstanceAs (Decidable (_ ∧ _))

/-- The positions of a wheel at the frames of the custom controller since the last reset, latest first.
`position n` is where the wheel is at the `n`th call. -/
def track (position : ℕ → ℤ) : List (Event (ControllerBridge ℝ) (Call ℝ)) → List ℤ
  | [] => []
  | e :: h =>
    match e.label with
    | .reset => []
    | .update _ true _ =>
      if e.post.CustomLocked then position h.length :: track position h else track position h
    | _ => track position h

def Observed (i : Fin 2) (position : ℕ → ℤ) : List (Event (ControllerBridge ℝ) (Call ℝ)) → Prop :=
  Historically fun e h => ∀ ch now, e.label = .update ch true now → e.post.CustomLocked →
    Shows ((ChannelPack.unpackChannels ch).encoder.get i) (position h.length)

/-- Between two frames a wheel turns by less than half a turn. -/
def TurnsSlowly (track : List ℤ) : Prop := track.IsChain fun q p => |q - p| < 1024

noncomputable def encoderStart (i : Fin 2) : ℝ := (#v[lit 1, lit 0.5] : Vector ℝ 2).get i

/-- Before a profile is locked a wheel stands still, and after it was locked the wheel has followed the
positions. -/
structure Follows (i : Fin 2) (positions : List ℤ) (b : ControllerBridge ℝ) : Prop where
  unlocked : b.profile_locked = false →
    positions = [] ∧ (b.wheel i).seen = false ∧ (b.wheel i).accum = encoderStart i
  custom : b.CustomLocked → ∃ p rest, positions = p :: rest ∧ (b.wheel i).seen = true ∧
    Shows (b.wheel i).last p ∧ (b.wheel i).accum = integrate (encoderStart i) positions

theorem follows_reset (b : ControllerBridge ℝ) : Follows i [] b.reset where
  unlocked _ := by
    refine ⟨rfl, ?_, rfl⟩
    show (Vector.replicate 2 false)[i] = false
    simp
  custom hlocked := by cases hlocked.1

theorem Follows.same {positions : List ℤ} {b' : ControllerBridge ℝ} (hb : Follows i positions b)
    (hlocked : b'.profile_locked = b.profile_locked)
    (hprofile : b.profile_locked = true → b'.detected_profile = b.detected_profile)
    (hwheel : b'.wheel i = b.wheel i) : Follows i positions b' where
  unlocked hno := by
    rw [hwheel]
    exact hb.unlocked (hlocked ▸ hno)
  custom hcustom := by
    have hb' : b.profile_locked = true := hlocked ▸ hcustom.1
    rw [hwheel]
    exact hb.custom ⟨hb', (hprofile hb').symm.trans hcustom.2⟩

theorem wheel_customFrame {ch : Channels} {now_ms : UInt32}
    (hcustom : (b.update ch true now_ms).CustomLocked) :
    (b.update ch true now_ms).wheel i =
        (b.wheel i).turn ((ChannelPack.unpackChannels ch).encoder.get i) ∧
      (b.profile_locked = true → b.CustomLocked) := by
  have hwheel := wheel_attemptProfileDetection b i ch
  rcases update_link_up b ch now_ms with ⟨hno, heq⟩ | ⟨hlocked, hprofile, heq⟩ |
    ⟨hlocked, hprofile, heq⟩
  · rw [heq] at hcustom
    refine absurd ⟨hcustom.1, fun hunknown => ?_⟩ hno
    exact nomatch hcustom.2.symm.trans hunknown
  · refine ⟨?_, fun hb => ⟨hb, ?_⟩⟩
    · rw [heq, wheel_decode, ← hwheel]
      exact wheel_integrateEncoders _ i
    · rw [attemptProfileDetection_of_locked hb] at hprofile
      exact hprofile
  · have hdirect : (b.update ch true now_ms).link.detected_profile = .tx16sMk3Direct := by
      rw [heq, link_decode, link_readDirect]
      exact hprofile
    exact nomatch hcustom.2.symm.trans hdirect

theorem unlocked_otherFrame {ch : Channels} {now_ms : UInt32}
    (hopen : (b.update ch true now_ms).profile_locked = false) :
    b.profile_locked = false ∧ (b.update ch true now_ms).wheel i = b.wheel i := by
  rcases update_link_up b ch now_ms with ⟨-, heq⟩ | ⟨hlocked, hprofile, heq⟩ | ⟨hlocked, -, heq⟩
  · rw [heq] at hopen ⊢
    refine ⟨?_, wheel_attemptProfileDetection b i ch⟩
    by_contra hb
    rw [attemptProfileDetection_of_locked (by simpa using hb)] at hopen
    exact hb hopen
  · have hlink : (b.update ch true now_ms).link.profile_locked = true := by
      rw [heq, link_decode, link_readCustom]
      exact hlocked
    exact nomatch hlink.symm.trans hopen
  · have hlink : (b.update ch true now_ms).link.profile_locked = true := by
      rw [heq, link_decode, link_readDirect]
      exact hlocked
    exact nomatch hlink.symm.trans hopen

theorem follows_frame {positions : List ℤ} {ch : Channels} {now_ms : UInt32} {q : ℤ}
    (hb : Follows i positions b) (hcustom : (b.update ch true now_ms).CustomLocked)
    (hshows : Shows ((ChannelPack.unpackChannels ch).encoder.get i) q)
    (hslow : TurnsSlowly (q :: positions)) :
    Follows i (q :: positions) (b.update ch true now_ms) := by
  obtain ⟨hturn, hbefore⟩ := wheel_customFrame (i := i) hcustom
  refine ⟨fun hopen => absurd hcustom.1 (by simp [hopen]), fun _ => ⟨q, positions, rfl, ?_⟩⟩
  rw [hturn]
  cases hlocked : b.profile_locked with
  | false =>
    obtain ⟨rfl, hseen, haccum⟩ := hb.unlocked hlocked
    rw [Wheel.turn_first hseen]
    exact ⟨rfl, hshows, haccum⟩
  | true =>
    obtain ⟨p, rest, rfl, hseen, hlast, haccum⟩ := hb.custom (hbefore hlocked)
    have hstep : |q - p| < 1024 := (List.isChain_cons_cons.mp hslow).1
    rw [Wheel.turn_seen hseen hlast hshows hstep, haccum]
    exact ⟨rfl, hshows, rfl⟩

theorem follows_other {positions : List ℤ} {ch : Channels} {now_ms : UInt32}
    (hb : Follows i positions b) (hnot : ¬ (b.update ch true now_ms).CustomLocked) :
    Follows i positions (b.update ch true now_ms) := by
  refine ⟨fun hopen => ?_, fun hcustom => absurd hcustom hnot⟩
  obtain ⟨hbefore, hwheel⟩ := unlocked_otherFrame (i := i) hopen
  rw [hwheel]
  exact hb.unlocked hbefore

theorem follows_call (hb : Follows i (track position h) b) (c : Call ℝ)
    (hobserved : Observed i position (⟨b, c, b.call c⟩ :: h))
    (hslow : TurnsSlowly (track position (⟨b, c, b.call c⟩ :: h))) :
    Follows i (track position (⟨b, c, b.call c⟩ :: h)) (b.call c) := by
  cases c with
  | update ch link_up now =>
    cases link_up with
    | true =>
      have hnow := hobserved.1 ch now rfl
      by_cases hcustom : (b.call (.update ch true now)).CustomLocked
      · have htrack : track position (⟨b, .update ch true now, b.call (.update ch true now)⟩ :: h) =
            position h.length :: track position h := if_pos hcustom
        rw [htrack] at hslow ⊢
        exact follows_frame hb hcustom (hnow hcustom) hslow
      · have htrack : track position (⟨b, .update ch true now, b.call (.update ch true now)⟩ :: h) =
            track position h := if_neg hcustom
        rw [htrack]
        exact follows_other hb hcustom
    | false =>
      show Follows i (track position h) (b.dropStreaks.enterFailsafe)
      refine hb.same profile_locked_dropStreaks (fun hlocked => ?_) ?_
      · rw [dropStreaks_of_locked hlocked]
        rfl
      · show b.dropStreaks.wheel i = b.wheel i
        unfold dropStreaks
        split <;> rfl
  | evaluateFailsafe now timeout_ms =>
    show Follows i (track position h) (b.evaluateFailsafe (UInt32.ofNat now) timeout_ms)
    unfold evaluateFailsafe
    split_ifs
    · exact hb.same rfl (fun _ => rfl) rfl
    · exact hb.same rfl (fun _ => rfl) rfl
    · exact hb
  | setBindings cfg => exact hb.same rfl (fun _ => rfl) rfl
  | setCalibration calibration =>
    show Follows i (track position h) (b.setCalibration calibration)
    unfold setCalibration
    split
    · exact hb.same rfl (fun _ => rfl) rfl
    · exact hb
  | setInputFilterMode mode allowed => exact hb.same rfl (fun _ => rfl) rfl
  | setGaitTuneFractions step_height stride duty =>
    show Follows i (track position h) (b.setGaitTuneFractions step_height stride duty)
    unfold setGaitTuneFractions
    split
    · exact hb
    · exact hb.same rfl (fun _ => rfl) rfl
  | reset => exact follows_reset b

/-- The turns of a history are those before its latest call, unless the call was a reset. -/
theorem TurnsSlowly.before {e : Event (ControllerBridge ℝ) (Call ℝ)}
    (hslow : TurnsSlowly (track position (e :: h))) (hreset : e.label ≠ .reset) :
    TurnsSlowly (track position h) := by
  unfold track at hslow
  split at hslow
  · contradiction
  · split at hslow
    · exact List.IsChain.tail hslow
    · exact hslow
  · exact hslow

theorem follows_of_run (run : Run (Deterministic call) construct h b)
    (hobserved : Observed i position h) (hslow : TurnsSlowly (track position h)) :
    Follows i (track position h) b := by
  induction run with
  | nil => exact follows_reset _
  | @step h b _ c run hstep ih =>
    obtain rfl := hstep
    by_cases hreset : c = .reset
    · subst hreset
      exact follows_reset b
    · exact follows_call (ih hobserved.2 (hslow.before hreset)) c hobserved hslow

/-- Whatever calls are made: as long as a wheel turns by less than half a turn between the frames of the
custom controller, the accumulator of its encoder is its start value with each true displacement added
in fractions of the full scale and held between zero and one. -/
theorem enc_accum_eq_integrate (run : Run (Deterministic call) construct h b) (i : Fin 2)
    (position : ℕ → ℤ) (hobserved : Observed i position h)
    (hslow : TurnsSlowly (track position h)) (hcustom : b.CustomLocked) :
    b.enc_accum.get i = integrate (encoderStart i) (track position h) := by
  obtain ⟨-, -, -, -, -, haccum⟩ := (follows_of_run run hobserved hslow).custom hcustom
  exact haccum

/-- A frame of a controller at rest but for its second encoder. -/
def turningFrame (enc : UInt16) (now : Nat) : Call ℝ :=
  .update ((Vector.replicate _ 992).setIfInBounds 7 enc) true now

/-- Three frames lock the profile, and in the fourth the encoder has wrapped around. -/
def turningFrames : List (Call ℝ) :=
  [turningFrame 2040 0, turningFrame 2040 10, turningFrame 2040 20, turningFrame 5 30]

theorem enc_accum_eq_integrate_wrap :
    ∃ h b, Run (Deterministic call) (construct (F := ℝ)) h b ∧
      b.enc_accum.get 1 = integrate (encoderStart 1) [2053, 2040] := by
  have hrun := run_execute call turningFrames
    (show Run (Deterministic call) (construct (F := ℝ)) [] construct from .nil)
  let position : ℕ → ℤ := fun n => if n = 3 then 2053 else 2040
  have htrack : track position (executeHistory call (construct (F := ℝ)) [] turningFrames) =
      [2053, 2040] := by
    decide +kernel
  have hobserved :
      Observed 1 position (executeHistory call (construct (F := ℝ)) [] turningFrames) := by
    refine ⟨?_, ?_, ?_, ?_, trivial⟩
    all_goals
      intro ch now hlabel _
      cases hlabel
      decide
  have hslow : TurnsSlowly (track position
      (executeHistory call (construct (F := ℝ)) [] turningFrames)) := by
    rw [htrack]
    exact .cons_cons (by decide) (.singleton _)
  have hresult := enc_accum_eq_integrate hrun 1 position hobserved hslow
    ⟨by decide +kernel, by decide +kernel⟩
  rw [htrack] at hresult
  exact ⟨_, _, hrun, hresult⟩

end ControllerBridge

end HexapodVerified.Input
