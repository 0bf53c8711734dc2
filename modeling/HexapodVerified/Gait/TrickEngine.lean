import HexapodVerified.Gait.BodyIk
import HexapodVerified.Lib.Loops
import HexapodVerified.Lib.Runs

/-!
# Tricks

`gait/trick_engine.cpp`: a keyframe player for body choreographies. The source's `active_`, `prog_`,
`seg_`, `seg_elapsed_ms_` and `held_` mean something only while a trick runs; here they are the
fields of `running`, which is there exactly when `active_` is set.
-/

namespace HexapodVerified.Gait

open HexapodVerified.Config FloatArith Loops Transition

variable {F : Type} [FloatArith F]

inductive TrickId where
  | none | standUp | sitDown | wave | crouchToggle | twirl | stretch | leanLook | danceLoop
  | spiderAttack | jumpKick
  deriving DecidableEq, Repr

structure TrickKeyframe (F : Type) where
  duration_ms : UInt16
  gait : GaitId
  vx : F
  vy : F
  wz : F
  x_mm : F
  y_mm : F
  z_mm : F
  roll : F
  pitch : F
  yaw : F
  height_frac : F
  height_rate_mm_per_s : F
  stride_mm : UInt16
  step_height_mm : UInt16
  speed_x255 : UInt8

structure TrickProgram (F : Type) where
  frames : List (TrickKeyframe F)
  loop : Bool
  hold_last : Bool

structure TrickOutput (F : Type) where
  active : Bool
  gait : GaitId
  twist_vx : F
  twist_vy : F
  twist_wz : F
  pose : BodyPose F
  override_height : Bool
  body_height_frac : F
  height_rate_mm_per_s : F
  override_gait_shape : Bool
  stride_mm : UInt16
  step_height_mm : UInt16
  speed_x255 : UInt8

/-- `TrickOutput()`. -/
def TrickOutput.idle : TrickOutput F where
  active := false
  gait := .stand
  twist_vx := lit 0
  twist_vy := lit 0
  twist_wz := lit 0
  pose := .neutral
  override_height := false
  body_height_frac := lit 0
  height_rate_mm_per_s := lit 0
  override_gait_shape := false
  stride_mm := 0
  step_height_mm := 0
  speed_x255 := 0

def trickFrame (duration_ms : UInt16) (gait : GaitId)
    (vx vy wz x_mm y_mm z_mm roll pitch yaw height_frac : ℚ) (height_rate_mm_per_s : ℚ := 0)
    (stride_mm : UInt16 := 0) (step_height_mm : UInt16 := 0) (speed_x255 : UInt8 := 0) :
    TrickKeyframe F where
  duration_ms := duration_ms
  gait := gait
  vx := lit vx
  vy := lit vy
  wz := lit wz
  x_mm := lit x_mm
  y_mm := lit y_mm
  z_mm := lit z_mm
  roll := lit roll
  pitch := lit pitch
  yaw := lit yaw
  height_frac := lit height_frac
  height_rate_mm_per_s := lit height_rate_mm_per_s
  stride_mm := stride_mm
  step_height_mm := step_height_mm
  speed_x255 := speed_x255

def kStandUpProg : TrickProgram F :=
  ⟨[trickFrame 700 .stand 0 0 0 0 0 0 0 0 0 0.80], false, false⟩

def kSitDownProg : TrickProgram F :=
  ⟨[trickFrame 700 .sit 0 0 0 0 0 0 0 0 0 0.05], false, false⟩

def kWaveProg : TrickProgram F :=
  ⟨[trickFrame 300 .stand 0 0 0 0 0 0 0.25 (-0.15) 0 (-1),
    trickFrame 300 .stand 0 0 0 0 0 0 (-0.10) (-0.15) 0 (-1),
    trickFrame 300 .stand 0 0 0 0 0 0 0.25 (-0.15) 0 (-1),
    trickFrame 300 .stand 0 0 0 0 0 0 0 0 0 (-1)], false, false⟩

def kCrouchDownProg : TrickProgram F :=
  ⟨[trickFrame 500 .stand 0 0 0 0 0 0 0 0 0 0.15], false, true⟩

def kCrouchUpProg : TrickProgram F :=
  ⟨[trickFrame 500 .stand 0 0 0 0 0 0 0 0 0 0.85], false, true⟩

def kTwirlProg : TrickProgram F :=
  ⟨[trickFrame 300 .tripod 0 0 0.80 0 0 0 0 0 0 (-1),
    trickFrame 1500 .tripod 0 0 0.80 0 0 0 0 0 0 (-1),
    trickFrame 300 .tripod 0 0 0 0 0 0 0 0 0 (-1)], false, false⟩

def kStretchProg : TrickProgram F :=
  ⟨[trickFrame 500 .stand 0 0 0 0 0 0 0 0 0 0.20,
    trickFrame 500 .stand 0 0 0 0 0 0 0 0 0 0.90,
    trickFrame 500 .stand 0 0 0 0 0 0 0 0 0 0.20,
    trickFrame 500 .stand 0 0 0 0 0 0 0 0 0 0.60], false, false⟩

def kLeanLookProg : TrickProgram F :=
  ⟨[trickFrame 500 .stand 0 0 0 0 0 0 0.20 0.15 0.20 (-1)], false, true⟩

def kDanceProg : TrickProgram F :=
  ⟨[trickFrame 350 .stand 0 0 0 0 0 0 0.25 0 0 0.40,
    trickFrame 350 .stand 0 0 0 0 0 0 (-0.25) 0 0.20 0.70,
    trickFrame 350 .stand 0 0 0 0 0 0 0.25 0 (-0.20) 0.40,
    trickFrame 350 .stand 0 0 0 0 0 0 0 0 0 0.60], true, false⟩

def kSpiderAttackProg : TrickProgram F :=
  ⟨[trickFrame 650 .stand 0 0 0 18 0 0 0 0.18 0 0.18], false, true⟩

def kJumpKickProg : TrickProgram F :=
  ⟨[trickFrame 900 .stand 0 0 0 0 0 0 0 0 0 0.10 80 35 40 255,
    trickFrame 700 .tripod 0 0.65 0 0 0 0 0 0 0 0.90 120 35 40 255,
    trickFrame 500 .stand 0 0 0 0 0 0 0 0 0 0.60 80], false, false⟩

structure TrickPosition (F : Type) where
  prog : TrickProgram F
  seg : Fin prog.frames.length
  seg_elapsed_ms : UInt32
  held : Bool

/-- The ramp origin: the targets of the previous frame, or the pose at the entry of the trick. -/
structure TrickOrigin (F : Type) where
  vx : F
  vy : F
  wz : F
  x : F
  y : F
  z : F
  roll : F
  pitch : F
  yaw : F
  height : F

structure TrickEngine (F : Type) where
  running : Option (TrickPosition F)
  trick : TrickId
  origin : TrickOrigin F
  crouched : Bool
  out : TrickOutput F

def lerp (a b t : F) : F := a + (b - a) * t

def clamp01 (v : F) : F := clampf v (lit 0) (lit 1)

namespace TrickEngine

def reset : TrickEngine F where
  running := none
  trick := .none
  origin := ⟨lit 0, lit 0, lit 0, lit 0, lit 0, lit 0, lit 0, lit 0, lit 0, lit 0⟩
  crouched := false
  out := .idle

def active (e : TrickEngine F) : Bool := e.running.isSome

/-- `TrickEngine::selectProgram`; the crouch toggle flips the latch. -/
def selectProgram (e : TrickEngine F) (trick : TrickId) : TrickEngine F × Option (TrickProgram F) :=
  match trick with
  | .standUp => (e, some kStandUpProg)
  | .sitDown => (e, some kSitDownProg)
  | .wave => (e, some kWaveProg)
  | .crouchToggle =>
    ({ e with crouched := !e.crouched }, some (if !e.crouched then kCrouchDownProg else kCrouchUpProg))
  | .twirl => (e, some kTwirlProg)
  | .stretch => (e, some kStretchProg)
  | .leanLook => (e, some kLeanLookProg)
  | .danceLoop => (e, some kDanceProg)
  | .spiderAttack => (e, some kSpiderAttackProg)
  | .jumpKick => (e, some kJumpKickProg)
  | .none => (e, none)

def cancel (e : TrickEngine F) : TrickEngine F :=
  { e with running := none, trick := .none, out := .idle }

def captureTargets (e : TrickEngine F) (kf : TrickKeyframe F) : TrickEngine F :=
  { e with
    origin :=
      { vx := kf.vx, vy := kf.vy, wz := kf.wz, x := kf.x_mm, y := kf.y_mm, z := kf.z_mm,
        roll := kf.roll, pitch := kf.pitch, yaw := kf.yaw
        height := if le (lit 0) kf.height_frac then kf.height_frac else e.origin.height } }

def writeOutputs (e : TrickEngine F) (kf : TrickKeyframe F) (t : F) : TrickEngine F :=
  let o := e.origin
  let override_height := le (lit 0) kf.height_frac
  { e with
    out :=
      { active := true
        gait := kf.gait
        twist_vx := lerp o.vx kf.vx t
        twist_vy := lerp o.vy kf.vy t
        twist_wz := lerp o.wz kf.wz t
        pose := ⟨lerp o.x kf.x_mm t, lerp o.y kf.y_mm t, lerp o.z kf.z_mm t, lerp o.roll kf.roll t,
          lerp o.pitch kf.pitch t, lerp o.yaw kf.yaw t⟩
        override_height
        body_height_frac :=
          if override_height then clamp01 (lerp o.height kf.height_frac t)
          else e.out.body_height_frac
        height_rate_mm_per_s :=
          if lt (lit 0) kf.height_rate_mm_per_s then kf.height_rate_mm_per_s else lit 0
        override_gait_shape := kf.stride_mm > 0 || kf.step_height_mm > 0 || kf.speed_x255 > 0
        stride_mm := kf.stride_mm
        step_height_mm := kf.step_height_mm
        speed_x255 := kf.speed_x255 } }

def trigger (e : TrickEngine F) (trick : TrickId) (entry_height_frac : F) : TrickEngine F :=
  if trick = .none then e.cancel
  else
    let (e, p) := e.selectProgram trick
    match p with
    | none => e
    | some prog =>
      if h : 0 < prog.frames.length then
        let e := { e with
          running := some { prog, seg := ⟨0, h⟩, seg_elapsed_ms := 0, held := false }
          trick := trick
          origin := ⟨lit 0, lit 0, lit 0, lit 0, lit 0, lit 0, lit 0, lit 0, lit 0,
            clamp01 entry_height_frac⟩ }
        e.writeOutputs (prog.frames.get ⟨0, h⟩) (lit 0)
      else e

def segmentMs (kf : TrickKeyframe F) : UInt32 :=
  if kf.duration_ms ≠ 0 then kf.duration_ms.toUInt32 else 1

omit [FloatArith F] in
theorem segmentMs_pos (kf : TrickKeyframe F) : 0 < (segmentMs kf).toNat := by
  unfold segmentMs
  split_ifs with h
  · rw [UInt16.toNat_toUInt32]
    exact Nat.pos_of_ne_zero fun h0 => h (UInt16.toNat_inj.mp h0)
  · decide

/-- The loop of `TrickEngine::update`: finished segments are consumed, and the output is written for
the segment the elapsed time falls in. -/
def advance (e : TrickEngine F) (prog : TrickProgram F) (seg : Fin prog.frames.length)
    (seg_elapsed_ms : UInt32) : TrickEngine F :=
  let kf := prog.frames.get seg
  let dur := segmentMs kf
  if _h : seg_elapsed_ms < dur then
    { e with running := some { prog, seg, seg_elapsed_ms, held := false } }.writeOutputs kf
      (ofUInt32 seg_elapsed_ms / ofUInt32 dur)
  else
    let e := e.captureTargets kf
    let rest := seg_elapsed_ms - dur
    if h : seg.val + 1 < prog.frames.length then e.advance prog ⟨seg.val + 1, h⟩ rest
    else if prog.loop then e.advance prog ⟨0, seg.pos⟩ rest
    else if prog.hold_last then
      { e with running := some { prog, seg, seg_elapsed_ms := rest, held := true } }.writeOutputs kf
        (lit 1)
    else { e with running := none, out := { e.out with active := false } }
termination_by seg_elapsed_ms.toNat
decreasing_by
  all_goals
    have hpos := segmentMs_pos (prog.frames.get seg)
    have hle : segmentMs (prog.frames.get seg) ≤ seg_elapsed_ms := UInt32.not_lt.mp _h
    rw [UInt32.toNat_sub_of_le _ _ hle]
    have := UInt32.le_iff_toNat_le.mp hle
    omega

def kMaxAdvanceMs : UInt32 := 1000

/-- `TrickEngine::update`; the result is the `out` of the engine afterwards. -/
def update (e : TrickEngine F) (dt_ms : UInt32) (sticks_active : Bool) : TrickEngine F :=
  match e.running with
  | none => { e with out := { e.out with active := false } }
  | some p =>
    if sticks_active then e.cancel
    else if p.held then e
    else
      let dt_ms := if dt_ms > kMaxAdvanceMs then kMaxAdvanceMs else dt_ms
      e.advance p.prog p.seg (p.seg_elapsed_ms + dt_ms)

end TrickEngine

/-!
## The trick engine's members

`gait/trick_engine.cpp` with every member where the source keeps it: `prog_` may be null, `seg_` is a byte that
indexes the keyframe table, and the loop of `update` goes on until it leaves. `TrickEngine` keeps of these what
means something; here they all stay, so that a read outside the table or an endless loop would show.
-/

structure TrickPlayer (F : Type) where
  active : Bool
  held : Bool
  trick : TrickId
  /-- `prog_`, none when null. -/
  prog : Option (TrickProgram F)
  seg : UInt8
  seg_elapsed_ms : UInt32
  origin : TrickOrigin F
  crouched : Bool
  out : TrickOutput F

namespace TrickPlayer

/-- An engine of which the player has everything but where it is in its program. -/
def shown (p : TrickPlayer F) (running : Option (TrickPosition F)) : TrickEngine F :=
  { running, trick := p.trick, origin := p.origin, crouched := p.crouched, out := p.out }

def reset : TrickPlayer F where
  active := false
  held := false
  trick := .none
  prog := none
  seg := 0
  seg_elapsed_ms := 0
  origin := ⟨lit 0, lit 0, lit 0, lit 0, lit 0, lit 0, lit 0, lit 0, lit 0, lit 0⟩
  crouched := false
  out := .idle

def cancel (p : TrickPlayer F) : TrickPlayer F :=
  { p with active := false, held := false, trick := .none, prog := none, out := .idle }

def captureTargets (p : TrickPlayer F) (kf : TrickKeyframe F) : TrickPlayer F :=
  { p with origin := ((p.shown none).captureTargets kf).origin }

def writeOutputs (p : TrickPlayer F) (kf : TrickKeyframe F) (t : F) : TrickPlayer F :=
  { p with out := ((p.shown none).writeOutputs kf t).out }

/-- `TrickEngine::trigger` from where the program is selected. -/
def play (p : TrickPlayer F) (trick : TrickId) (prog : TrickProgram F) (entry_height_frac : F) :
    TrickPlayer F :=
  match prog.frames with
  | [] => p
  | kf :: _ =>
    let p := { p with
      prog := some prog
      trick := trick
      active := true
      held := false
      seg := 0
      seg_elapsed_ms := 0
      origin := ⟨lit 0, lit 0, lit 0, lit 0, lit 0, lit 0, lit 0, lit 0, lit 0,
        clamp01 entry_height_frac⟩ }
    p.writeOutputs kf (lit 0)

def trigger (p : TrickPlayer F) (trick : TrickId) (entry_height_frac : F) : TrickPlayer F :=
  if trick = .none then p.cancel
  else
    let (e, selected) := (p.shown none).selectProgram trick
    let p := { p with crouched := e.crouched }
    match selected with
    | none => p
    | some prog => p.play trick prog entry_height_frac

/-- One pass through the loop of `update`; none for a read outside the table. -/
def pass (prog : TrickProgram F) (p : TrickPlayer F) : Option (Pass (TrickPlayer F)) :=
  match prog.frames[p.seg.toNat]? with
  | none => none
  | some kf =>
    let dur := TrickEngine.segmentMs kf
    if p.seg_elapsed_ms < dur then
      some (.done (p.writeOutputs kf (ofUInt32 p.seg_elapsed_ms / ofUInt32 dur)))
    else
      let p := { p with seg_elapsed_ms := p.seg_elapsed_ms - dur }.captureTargets kf
      if p.seg.toNat + 1 < prog.frames.length then some (.again { p with seg := p.seg + 1 })
      else if prog.loop then some (.again { p with seg := 0 })
      else if prog.hold_last then some (.done { p.writeOutputs kf (lit 1) with held := true })
      else some (.done { p with active := false, out := { p.out with active := false } })

/-- `TrickEngine::update`. Every pass that goes on consumes a millisecond at least: the fuel is one more than
there are milliseconds. -/
def update (p : TrickPlayer F) (dt_ms : UInt32) (sticks_active : Bool) : Option (TrickPlayer F) :=
  if !p.active then some { p with out := { p.out with active := false } }
  else if sticks_active then some p.cancel
  else if p.held then some p
  else
    let dt_ms := if dt_ms > TrickEngine.kMaxAdvanceMs then TrickEngine.kMaxAdvanceMs else dt_ms
    let p := { p with seg_elapsed_ms := p.seg_elapsed_ms + dt_ms }
    match p.prog with
    | none => none
    | some prog => loop (pass prog) (p.seg_elapsed_ms.toNat + 1) p

end TrickPlayer

/-- A program whose length fits the `count` of a `TrickProgram`. -/
abbrev CountedProgram (F : Type) := { prog : TrickProgram F // prog.frames.length < 256 }

/-- The calls on the player; `play` starts any program at all. -/
inductive PlayerCall (F : Type) where
  | reset
  | cancel
  | trigger (trick : TrickId) (entry_height_frac : F)
  | play (trick : TrickId) (prog : CountedProgram F) (entry_height_frac : F)
  | update (dt_ms : UInt32) (sticks_active : Bool)

def TrickPlayer.call (p : TrickPlayer F) : PlayerCall F → Option (TrickPlayer F)
  | .reset => some .reset
  | .cancel => some p.cancel
  | .trigger trick entry_height_frac => some (p.trigger trick entry_height_frac)
  | .play trick prog entry_height_frac => some (p.play trick prog.val entry_height_frac)
  | .update dt_ms sticks_active => p.update dt_ms sticks_active

/-- From the constructor, the calls recorded in `h` lead to `p`. -/
abbrev PlayerRun : List (Event (TrickPlayer F) (PlayerCall F)) → TrickPlayer F → Prop :=
  Run (Guarded TrickPlayer.call) .reset

end HexapodVerified.Gait
