import HexapodVerified.Protocol.ControllerApi
import Mathlib.Tactic.IntervalCases

/-!
# The binding codec

With exact deadband arithmetic the reader and the writer agree field by field, up to the normal form of
an axis: an invert flag is 0 or 1, a deadband has 0 to 1000 thousandths. The message of an older host
reads like the current message with the default of the new trick slot in its place.
-/

namespace HexapodVerified.Protocol

open HexapodVerified.Input Bytes FloatArith
open Codec hiding getU16

/-- A whole number of thousandths between 0 and 1. -/
def Thousandths (deadband : ℝ) : Prop := ∃ k : ℕ, k ≤ 1000 ∧ deadband = k / 1000

/-- A number of thousandths forced into 0 to 1000. -/
def clampThousandths (k : Int16) : Int16 := if k < 0 then 0 else if 1000 < k then 1000 else k

theorem lit_half : (lit 0.5 : ℝ) = 1 / 2 := by
  show (((0.5 : ℚ)) : ℝ) = 1 / 2
  norm_num

theorem toI16_natCast {k : ℕ} (hk : k ≤ 1000) : toI16 (k : ℝ) = Int16.ofInt k := by
  have hpos : (0 : ℝ) ≤ k := Nat.cast_nonneg k
  have htop : (k : ℝ) ≤ 1000 := by exact_mod_cast hk
  have hle : le (lit 0) (k : ℝ) = true := by
    refine decide_eq_true ?_
    show (((0 : ℚ)) : ℝ) ≤ k
    rw [Rat.cast_zero]
    exact hpos
  have hhigh : lt (lit 32767) ((k : ℝ) + 1 / 2) = false := by
    refine decide_eq_false ?_
    show ¬ (((32767 : ℚ)) : ℝ) < k + 1 / 2
    linarith
  have hlow : lt ((k : ℝ) + 1 / 2) (lit (-32768)) = false := by
    refine decide_eq_false ?_
    show ¬ (k : ℝ) + 1 / 2 < (((-32768 : ℚ)) : ℝ)
    linarith
  have htrunc : trunc ((k : ℝ) + 1 / 2) = k := by
    show (if (0 : ℝ) ≤ k + 1 / 2 then ⌊(k : ℝ) + 1 / 2⌋ else _) = (k : ℤ)
    rw [if_pos (by linarith), Int.floor_eq_iff]
    push_cast
    constructor <;> linarith
  unfold toI16
  dsimp only
  rw [hle, if_pos rfl, lit_half, hhigh, if_neg Bool.false_ne_true, hlow, if_neg Bool.false_ne_true,
    htrunc]

theorem milli_thousandths {k : ℕ} (hk : k ≤ 1000) :
    milli ((k : ℝ) / 1000) = Int16.ofInt k := by
  have hscale : (k : ℝ) / 1000 * lit 1000 = k := by
    show (k : ℝ) / 1000 * (((1000 : ℚ)) : ℝ) = k
    push_cast
    field_simp
  unfold milli
  rw [hscale, toI16_natCast hk]

theorem clampThousandths_eq (v : Int16) : ∃ k : ℕ, k ≤ 1000 ∧ clampThousandths v = Int16.ofInt k ∧
    (deadbandOf v : ℝ) = k / 1000 ∧ (0 ≤ v.toInt → v.toInt ≤ 1000 → (k : ℤ) = v.toInt) := by
  have hread : (ofInt16 v : ℝ) / lit 1000 = (v.toInt : ℝ) / 1000 := by
    show ((v.toInt : ℤ) : ℝ) / (((1000 : ℚ)) : ℝ) = _
    rfl
  have hzero : (lit 0 : ℝ) = 0 := Rat.cast_zero
  have hone : (lit 1 : ℝ) = 1 := Rat.cast_one
  have h1000 : (1000 : Int16).toInt = 1000 := rfl
  unfold clampThousandths deadbandOf
  dsimp only
  rw [hread, hzero, hone]
  by_cases hneg : v < 0
  · have hint : v.toInt < 0 := Int16.lt_iff_toInt_lt.mp hneg
    have hreal : (v.toInt : ℝ) < 0 := by exact_mod_cast hint
    refine ⟨0, by omega, ?_, ?_, fun hno => absurd hint (not_lt.mpr hno)⟩
    · rw [if_pos hneg]
      rfl
    · have hlt : lt ((v.toInt : ℝ) / 1000) 0 = true := decide_eq_true (by linarith)
      have hno : lt (1 : ℝ) 0 = false := decide_eq_false (by norm_num)
      rw [hlt, if_pos rfl, hno, if_neg Bool.false_ne_true, Nat.cast_zero, zero_div]
  · have hint : 0 ≤ v.toInt := not_lt.mp fun h => hneg (Int16.lt_iff_toInt_lt.mpr h)
    have hreal : (0 : ℝ) ≤ v.toInt := by exact_mod_cast hint
    have hlt : lt ((v.toInt : ℝ) / 1000) 0 = false :=
      decide_eq_false (not_lt.mpr (div_nonneg hreal (by norm_num)))
    rw [if_neg hneg, hlt, if_neg Bool.false_ne_true]
    by_cases hbig : 1000 < v
    · have hbigInt : 1000 < v.toInt := h1000 ▸ Int16.lt_iff_toInt_lt.mp hbig
      have hbigReal : (1000 : ℝ) < v.toInt := by exact_mod_cast hbigInt
      have hover : lt (1 : ℝ) ((v.toInt : ℝ) / 1000) = true := decide_eq_true (by linarith)
      refine ⟨1000, le_rfl, ?_, ?_, fun _ hno => absurd hbigInt (not_lt.mpr hno)⟩
      · rw [if_pos hbig]
        rfl
      · rw [hover, if_pos rfl]
        norm_num
    · have hsmall : v.toInt ≤ 1000 :=
        not_lt.mp fun h => hbig (Int16.lt_iff_toInt_lt.mpr (h1000 ▸ h))
      have hsmallReal : (v.toInt : ℝ) ≤ 1000 := by exact_mod_cast hsmall
      have hunder : lt (1 : ℝ) ((v.toInt : ℝ) / 1000) = false := decide_eq_false (by linarith)
      refine ⟨v.toInt.toNat, by omega, ?_, ?_, fun _ _ => Int.toNat_of_nonneg hint⟩
      · rw [if_neg hbig, Int.toNat_of_nonneg hint, Int16.ofInt_toInt]
      · rw [hunder, if_neg Bool.false_ne_true]
        congr 1
        exact_mod_cast (Int.toNat_of_nonneg hint).symm

theorem milli_deadbandOf (v : Int16) : milli (deadbandOf v : ℝ) = clampThousandths v := by
  obtain ⟨k, hk, hclamp, hread, -⟩ := clampThousandths_eq v
  rw [hread, milli_thousandths hk, hclamp]

theorem deadbandOf_milli {deadband : ℝ} (hd : Thousandths deadband) :
    deadbandOf (milli deadband) = deadband := by
  obtain ⟨k, hk, rfl⟩ := hd
  rw [milli_thousandths hk]
  obtain ⟨k', -, -, hread, hsame⟩ := clampThousandths_eq (Int16.ofInt k)
  have hint : (Int16.ofInt (k : ℤ)).toInt = k :=
    Int16.toInt_ofInt_of_le (by omega) (by omega)
  rw [hint] at hsame
  have hk' : k' = k := by exact_mod_cast hsame (by omega) (by omega)
  rw [hread, hk']

def normFlag (bytes : List UInt8) : List UInt8 := bytes.map fun v => if v != 0 then 1 else 0

def normDeadband (bytes : List UInt8) : List UInt8 :=
  putI16 (clampThousandths (getU16 bytes).toInt16)

/-- The normal form of an axis: source, invert flag, deadband. -/
def normAxis (bytes : List UInt8) : List UInt8 :=
  bytes.take 1 ++ (normFlag ((bytes.drop 1).take 1) ++ normDeadband ((bytes.drop 1).drop 1))

theorem normal_axisSource : Normal (fun _ => True) 1 id (putEnum AxisSource.all)
    (getEnum AxisSource.all) :=
  normal_enum_all (by decide) (by decide) fun s => by cases s <;> decide

theorem normal_boolSource : Normal (fun _ => True) 1 id (putEnum BoolSource.all)
    (getEnum BoolSource.all) :=
  normal_enum_all (by decide) (by decide) fun s => by cases s <;> decide

theorem normal_triSource : Normal (fun _ => True) 1 id (putEnum TriSource.all)
    (getEnum TriSource.all) :=
  normal_enum_all (by decide) (by decide) fun s => by cases s <;> decide

theorem normal_trickId : Normal (fun _ => True) 1 id (putEnum allTricks) (getEnum allTricks) :=
  normal_enum_all (by decide) (by decide) fun s => by cases s <;> decide

theorem normal_flag : Normal (fun _ => True) 1 normFlag putFlag getFlag := by
  refine law_u8.normal_map (fun v _ => ?_) (fun _ => trivial) fun v => ?_
  · cases v <;> rfl
  · show [if v != 0 then 1 else 0] = [if (v != 0) = true then 1 else 0]
    rfl

theorem normal_deadband : Normal Thousandths 2 normDeadband putDeadband getDeadband := by
  refine law_i16.normal_map (fun d hd => deadbandOf_milli hd) (fun v => ?_) fun v => ?_
  · obtain ⟨k, hk, -, hread, -⟩ := clampThousandths_eq v
    exact ⟨k, hk, hread⟩
  · show putI16 (clampThousandths (getU16 (putU16 v.toUInt16)).toInt16) =
      putI16 (milli (deadbandOf v))
    rw [getU16_putU16_self, Int16.toInt16_toUInt16, milli_deadbandOf]

theorem normal_axis : Normal (fun a : AxisBinding ℝ => Thousandths a.deadband) (1 + (1 + 2)) normAxis
    putAxis getAxis :=
  normal_axisSource.bind AxisBinding.source (fun _ _ => trivial) fun source _ =>
    normal_flag.bind AxisBinding.invert (fun _ _ => trivial) fun invert _ =>
    normal_deadband.last AxisBinding.deadband (fun _ ha => ha.1.1) fun deadband hd a => by
      cases a
      simp only [AxisBinding.mk.injEq, and_assoc]
      constructor
      · exact fun h => h.2
      · rintro ⟨rfl, rfl, rfl⟩
        exact ⟨hd, rfl, rfl, rfl⟩

theorem normal_trick : Normal (fun _ => True) (1 + 1) id putTrick getTrick := by
  refine Normal.of_norm (normal_boolSource.bind TrickBinding.source (fun _ _ => trivial)
    fun source _ => normal_trickId.last TrickBinding.trick (fun _ _ => trivial)
      fun trick _ tb => ?_) fun bytes => List.take_append_drop ..
  cases tb
  simp only [TrickBinding.mk.injEq, true_and]

/-! ## The map -/

def OffWireDefault (c : BindingConfig ℝ) : Prop :=
  c.duty = defaultBindings.duty ∧
  c.gait_tune_toggle = (defaultBindings (F := ℝ)).gait_tune_toggle ∧
  c.gait_tune_next = (defaultBindings (F := ℝ)).gait_tune_next ∧
  c.gait_tune_prev = (defaultBindings (F := ℝ)).gait_tune_prev ∧
  c.gait_tune_increase = (defaultBindings (F := ℝ)).gait_tune_increase ∧
  c.gait_tune_decrease = (defaultBindings (F := ℝ)).gait_tune_decrease ∧
  c.gait_tune_save = (defaultBindings (F := ℝ)).gait_tune_save

def axesOf (c : BindingConfig ℝ) : Vector (AxisBinding ℝ) 13 :=
  #v[c.walk_forward, c.walk_strafe, c.walk_yaw, c.body_x, c.body_y, c.body_z, c.body_roll,
    c.body_pitch, c.body_yaw, c.speed, c.body_height, c.stride, c.step_height]

def boolsOf (c : BindingConfig ℝ) : Vector BoolSource 11 :=
  #v[c.arm, c.estop, c.feat_foot_contact, c.feat_terrain_leveling, c.feat_passive_pose,
    c.host_authority, c.trim_pitch_up, c.trim_pitch_down, c.trim_roll_left, c.trim_roll_right,
    c.trim_reset]

/-- A map that can be written and read back. -/
def OnWire (c : BindingConfig ℝ) : Prop :=
  OffWireDefault c ∧ ∀ a ∈ axesOf c, Thousandths a.deadband

noncomputable def functionsOf (c : BindingConfig ℝ) : BindingConfig ℝ :=
  { c with tricks := (defaultBindings (F := ℝ)).tricks }

noncomputable def putFunctions (c : BindingConfig ℝ) : List UInt8 :=
  putVector putAxis (axesOf c) ++ (putEnum TriSource.all c.mode_select ++
    (putEnum TriSource.all c.gait_select ++ putVector (putEnum BoolSource.all) (boolsOf c)))

theorem encodeBindings_eq (c : BindingConfig ℝ) :
    encodeBindings c = putFunctions c ++ putVector putTrick c.tricks := by
  unfold encodeBindings putFunctions putVector axesOf boolsOf
  simp only [Vector.toList_mk, List.flatMap_cons, List.flatMap_nil, List.append_assoc,
    List.append_nil]

theorem axesOf_setAxes (c : BindingConfig ℝ) (axes : Vector (AxisBinding ℝ) 13) :
    axesOf (setAxes c axes) = axes := by
  apply Vector.ext
  intro i hi
  interval_cases i <;> rfl

theorem boolsOf_setBools (c : BindingConfig ℝ) (bools : Vector BoolSource 11) :
    boolsOf (setBools c bools) = bools := by
  apply Vector.ext
  intro i hi
  interval_cases i <;> rfl

noncomputable def functions (axes : Vector (AxisBinding ℝ) 13) (mode_select gait_select : TriSource)
    (bools : Vector BoolSource 11) : BindingConfig ℝ :=
  { setBools (setAxes defaultBindings axes) bools with mode_select, gait_select }

theorem functions_eq {c : BindingConfig ℝ} (hoff : OffWireDefault c)
    (htricks : c.tricks = (defaultBindings (F := ℝ)).tricks) :
    functions (axesOf c) c.mode_select c.gait_select (boolsOf c) = c := by
  obtain ⟨h1, h2, h3, h4, h5, h6, h7⟩ := hoff
  cases c
  subst h1 h2 h3 h4 h5 h6 h7 htricks
  rfl

def FunctionsOnWire (c : BindingConfig ℝ) : Prop :=
  OnWire c ∧ c.tricks = (defaultBindings (F := ℝ)).tricks

noncomputable def putSelectors (c : BindingConfig ℝ) : List UInt8 :=
  putEnum TriSource.all c.mode_select ++ (putEnum TriSource.all c.gait_select ++
    putVector (putEnum BoolSource.all) (boolsOf c))

noncomputable def getSelectors (axes : Vector (AxisBinding ℝ) 13) : Reader (BindingConfig ℝ) := do
  let mode_select ← getEnum TriSource.all
  let gait_select ← getEnum TriSource.all
  let bools ← getVector (getEnum BoolSource.all) 11
  return functions axes mode_select gait_select bools

theorem normal_selectors {axes : Vector (AxisBinding ℝ) 13}
    (haxes : ∀ a ∈ axes, Thousandths a.deadband) :
    Normal (fun c => FunctionsOnWire c ∧ axesOf c = axes) (1 + (1 + 11 * 1)) id putSelectors
      (getSelectors axes) := by
  refine Normal.of_norm (normal_triSource.bind BindingConfig.mode_select (fun _ _ => trivial)
    fun mode_select _ => normal_triSource.bind BindingConfig.gait_select (fun _ _ => trivial)
      fun gait_select _ => (normal_boolSource.vector 11).last boolsOf (fun _ _ _ _ => trivial)
        fun bools _ c => ?_) fun bytes => ?_
  · show _ ↔ c = functions axes mode_select gait_select bools
    constructor
    · rintro ⟨⟨⟨⟨⟨⟨hoff, -⟩, htricks⟩, rfl⟩, rfl⟩, rfl⟩, rfl⟩
      exact (functions_eq hoff htricks).symm
    · rintro rfl
      have haxesEq : axesOf (functions axes mode_select gait_select bools) = axes :=
        axesOf_setAxes defaultBindings axes
      refine ⟨⟨⟨⟨⟨⟨⟨rfl, rfl, rfl, rfl, rfl, rfl, rfl⟩, ?_⟩, rfl⟩, haxesEq⟩, rfl⟩, rfl⟩,
        boolsOf_setBools (setAxes defaultBindings axes) bools⟩
      rw [haxesEq]
      exact haxes
  · rw [normVector_id, id_eq, id_eq, List.take_append_drop, List.take_append_drop, id_eq]

/-- The normal form of the functions: only axes have one. -/
def normFunctions (bytes : List UInt8) : List UInt8 :=
  normVector normAxis 4 13 (bytes.take 52) ++ bytes.drop 52

theorem normal_functions : Normal FunctionsOnWire (52 + 13) normFunctions putFunctions
    getFunctions := by
  have haxes : Normal (fun axes : Vector (AxisBinding ℝ) 13 => ∀ a ∈ axes, Thousandths a.deadband) 52
      (normVector normAxis 4 13) (putVector putAxis) (getVector getAxis 13) := normal_axis.vector 13
  have hall := haxes.bind axesOf (fun c hc => hc.1.2) fun axes hthousandths =>
    normal_selectors hthousandths
  exact hall

theorem normal_tricks {functions : BindingConfig ℝ} (hf : FunctionsOnWire functions) :
    Normal (fun c => OnWire c ∧ functionsOf c = functions) (9 * (1 + 1)) id
      (fun c => putVector putTrick c.tricks) (getTricks false functions) := by
  refine Normal.of_norm ((normal_trick.vector 9).last BindingConfig.tricks
    (fun _ _ _ _ => trivial) fun tricks _ c => ?_) (normVector_id _ _)
  constructor
  · rintro ⟨⟨-, rfl⟩, rfl⟩
    rfl
  · rintro rfl
    refine ⟨⟨hf.1, ?_⟩, rfl⟩
    show { functions with tricks := (defaultBindings (F := ℝ)).tricks } = functions
    rw [← hf.2]

theorem normal_bindings : Normal OnWire (52 + 13 + 9 * (1 + 1))
    (fun bytes => normFunctions (bytes.take (52 + 13)) ++ id (bytes.drop (52 + 13))) encodeBindings
    (getFunctions >>= getTricks false) := by
  have hput : encodeBindings =
      fun c : BindingConfig ℝ => putFunctions (functionsOf c) ++ putVector putTrick c.tricks :=
    funext encodeBindings_eq
  rw [hput]
  exact normal_functions.bind functionsOf (fun c hc => ⟨hc, rfl⟩) fun functions hf =>
    normal_tricks hf

def normalise (bytes : List UInt8) : List UInt8 :=
  ((List.range 13).flatMap fun i => normAxis (window bytes (i * 4) 4)) ++ bytes.drop 52

theorem normBindings_eq {bytes : List UInt8} (hlen : bytes.length = kControllerBindingsLen) :
    normFunctions (bytes.take (52 + 13)) ++ id (bytes.drop (52 + 13)) = normalise bytes := by
  have htake : (bytes.take 52).length = 13 * 4 := by
    rw [List.length_take, hlen]
    rfl
  unfold normFunctions normalise
  rw [List.take_take, Nat.min_eq_left (by decide), normVector_eq normAxis htake, id_eq,
    List.append_assoc, List.drop_take]
  congr 1
  · refine List.flatMap_congr fun i hi => ?_
    have hlt : i < 13 := List.mem_range.mp hi
    unfold window
    rw [List.drop_take, List.take_take, Nat.min_eq_left (by omega)]
  · rw [← List.drop_drop, List.take_append_drop]

/-- An older message with the default of the new slot put in before its last slot. -/
noncomputable def insertNav2Right (bytes : List UInt8) : List UInt8 :=
  bytes.take 79 ++ (putTrick (newTrick (defaultBindings (F := ℝ)).tricks) ++ bytes.drop 79)

theorem getVector_succ {α : Type} (get : Reader α) (n : ℕ) (bytes : List UInt8) :
    getVector get (n + 1) bytes = (getVector get n bytes).bind fun out =>
      (get out.2).map fun last => (out.1.push last.1, last.2) := by
  show (getVector get n bytes).bind (fun out => (get out.2).bind fun last =>
    some (out.1.push last.1, last.2)) = _
  refine Option.bind_congr fun out _ => ?_
  exact Option.map_eq_bind.symm

theorem shiftTricks_push (defaults : Vector TrickBinding kMaxTrickBindings)
    (tricks : Vector TrickBinding 7) (last : TrickBinding) :
    shiftTricks defaults (tricks.push last) = (tricks.push (newTrick defaults)).push last := by
  unfold shiftTricks
  rw [Vector.pop_push, Vector.back_eq_of_push_eq (Vector.push_pop_back _)]

theorem getTricks_insert {c : BindingConfig ℝ}
    (hdefault : c.tricks = (defaultBindings (F := ℝ)).tricks) {first : List UInt8}
    (hfirst : 7 * (1 + 1) ≤ first.length) (hend : first.drop (7 * (1 + 1)) = [])
    (last : List UInt8) :
    getTricks true c (first ++ last) = getTricks false c
      (first ++ (putTrick (newTrick (defaultBindings (F := ℝ)).tricks) ++ last)) := by
  have hframe := (normal_trick.vector 7).frame hfirst
  show (getVector getTrick 8 _).bind (fun out =>
      some ({ c with tricks := shiftTricks c.tricks out.1 }, out.2)) =
    (getVector getTrick 9 _).bind (fun out => some ({ c with tricks := out.1 }, out.2))
  rw [getVector_succ getTrick 8, getVector_succ getTrick 7, getVector_succ getTrick 7, hframe, hframe]
  cases htricks : getVector getTrick 7 first with
  | none => rfl
  | some out =>
    obtain ⟨tricks, rest⟩ := out
    obtain ⟨-, -, hrest, -⟩ := (normal_trick.vector 7).put_get htricks
    obtain rfl : rest = [] := hrest.trans hend
    show ((getTrick last).map fun l => (tricks.push l.1, l.2)).bind _ =
      (((getTrick (putTrick (newTrick (defaultBindings (F := ℝ)).tricks) ++ last)).map
        fun l => (tricks.push l.1, l.2)).bind fun out =>
          (getTrick out.2).map fun l => (out.1.push l.1, l.2)).bind _
    rw [normal_trick.get_put trivial last]
    show _ = ((getTrick last).map fun l =>
      ((tricks.push (newTrick (defaultBindings (F := ℝ)).tricks)).push l.1, l.2)).bind _
    cases getTrick last with
    | none => rfl
    | some out =>
      show some ({ c with tricks := shiftTricks c.tricks (tricks.push out.1) }, out.2) =
        some ({ c with tricks := (tricks.push _).push out.1 }, out.2)
      rw [shiftTricks_push, hdefault]

theorem readBindings_insert {bytes : List UInt8} (hlen : bytes.length = kLegacyControllerBindingsLen) :
    readBindings (F := ℝ) (insertNav2Right bytes) = readBindings bytes := by
  have hinsert : (insertNav2Right bytes).length = kControllerBindingsLen := by
    unfold insertNav2Right
    rw [List.length_append, List.length_append, List.length_take, List.length_drop, hlen,
      normal_trick.length trivial]
    rfl
  -- The functions, the seven slots in common and the last slot.
  obtain ⟨functions, first, last, hbytes, hf, hfirst⟩ : ∃ functions first last,
      bytes = functions ++ (first ++ last) ∧ functions.length = 52 + 13 ∧
        first.length = 7 * (1 + 1) := by
    refine ⟨bytes.take 65, (bytes.drop 65).take 14, (bytes.drop 65).drop 14, ?_, ?_, ?_⟩
    · rw [List.take_append_drop, List.take_append_drop]
    · rw [List.length_take, hlen]
      rfl
    · rw [List.length_take, List.length_drop, hlen]
      rfl
  have hnew : insertNav2Right bytes = functions ++ (first ++
      (putTrick (newTrick (defaultBindings (F := ℝ)).tricks) ++ last)) := by
    have hfront : (functions ++ first).length = 79 := by
      rw [List.length_append, hf, hfirst]
    unfold insertNav2Right
    rw [hbytes, ← List.append_assoc functions first last, ← hfront, List.take_left, List.drop_left,
      List.append_assoc]
  unfold readBindings
  rw [if_neg (by rw [hinsert]; decide), if_neg (by rw [hlen]; decide), hinsert, hlen, hnew, hbytes]
  show Option.map _ ((getFunctions (functions ++ _)).bind fun out => getTricks false out.1 out.2) =
    Option.map _ ((getFunctions (functions ++ _)).bind fun out => getTricks true out.1 out.2)
  rw [normal_functions.frame (le_of_eq hf.symm), normal_functions.frame (le_of_eq hf.symm)]
  cases hget : getFunctions (F := ℝ) functions with
  | none => rfl
  | some out =>
    obtain ⟨c, rest⟩ := out
    obtain ⟨hc, -, hrest, -⟩ := normal_functions.put_get hget
    obtain rfl : rest = [] := by rw [hrest, ← hf, List.drop_length]
    have hend : first.drop (7 * (1 + 1)) = [] := by rw [← hfirst, List.drop_length]
    exact congrArg _ (getTricks_insert hc.2 (le_of_eq hfirst.symm) hend last).symm

theorem readBindings_current {bytes : List UInt8} (hlen : bytes.length = kControllerBindingsLen) :
    readBindings (F := ℝ) bytes = ((getFunctions >>= getTricks false) bytes).map (·.1) := by
  unfold readBindings
  rw [if_neg (by rw [hlen]; decide), hlen]
  rfl

theorem decodeBindings_true {bytes : List UInt8} {out c : BindingConfig ℝ}
    (h : decodeBindings bytes out = (true, c)) : readBindings bytes = some c := by
  unfold decodeBindings at h
  cases hread : readBindings (F := ℝ) bytes with
  | none =>
    rw [hread] at h
    exact nomatch congrArg Prod.fst h
  | some c' =>
    rw [hread] at h
    exact congrArg some (congrArg Prod.snd h)

theorem length_encodeBindings {cfg : BindingConfig ℝ} (hcfg : OnWire cfg) :
    (encodeBindings cfg).length = kControllerBindingsLen := normal_bindings.length hcfg

/-- A map that was accepted is written back as the normal form of the message; a map on the wire is
read back; an older message reads like the message with the new slot put in; a rejected message
changes nothing. -/
theorem bindings_codec :
    (∀ bytes out (c : BindingConfig ℝ), bytes.length = kControllerBindingsLen →
      decodeBindings bytes out = (true, c) → encodeBindings c = normalise bytes) ∧
    (∀ cfg out : BindingConfig ℝ, OnWire cfg →
      decodeBindings (encodeBindings cfg) out = (true, cfg)) ∧
    (∀ bytes (out : BindingConfig ℝ), bytes.length = kLegacyControllerBindingsLen →
      decodeBindings bytes out = decodeBindings (insertNav2Right bytes) out) ∧
    ∀ bytes (out : BindingConfig ℝ), (decodeBindings bytes out).1 = false →
      (decodeBindings bytes out).2 = out := by
  refine ⟨fun bytes out c hlen hdec => ?_, fun cfg out hcfg => ?_, fun bytes out hlen => ?_,
    fun bytes out hno => ?_⟩
  · have hread := decodeBindings_true hdec
    rw [readBindings_current hlen, Option.map_eq_some_iff] at hread
    obtain ⟨⟨c', rest⟩, hget, rfl⟩ := hread
    obtain ⟨-, -, -, hput⟩ := normal_bindings.put_get hget
    have hall : bytes.take (52 + 13 + 9 * (1 + 1)) = bytes :=
      List.take_of_length_le (le_of_eq hlen)
    rw [hput, hall, normBindings_eq hlen]
  · have hget := normal_bindings.get_put hcfg []
    rw [List.append_nil] at hget
    unfold decodeBindings
    rw [readBindings_current (length_encodeBindings hcfg), hget]
    rfl
  · unfold decodeBindings
    rw [readBindings_insert hlen]
  · unfold decodeBindings at hno ⊢
    cases hread : readBindings (F := ℝ) bytes with
    | none => rfl
    | some c =>
      rw [hread] at hno
      cases hno

/-- The default map is read back. -/
theorem bindings_codec_default :
    decodeBindings (encodeBindings (defaultBindings (F := ℝ))) defaultBindings =
      (true, (defaultBindings : BindingConfig ℝ)) := by
  refine bindings_codec.2.1 defaultBindings defaultBindings
    ⟨⟨rfl, rfl, rfl, rfl, rfl, rfl, rfl⟩, fun a ha => ⟨0, by omega, ?_⟩⟩
  have hzero : a.deadband = (lit 0 : ℝ) := by
    obtain ⟨i, hi, rfl⟩ := Vector.getElem_of_mem ha
    interval_cases i <;> rfl
  rw [hzero, Nat.cast_zero, zero_div]
  exact Rat.cast_zero

end HexapodVerified.Protocol
