import HexapodVerified.Lib.Runs
import Mathlib.Data.List.FinRange

/-!
# The task watchdog

`safety/watchdog.cpp`: the heartbeats of the tasks, and the periodic evaluation, which also drives the
hardware watchdog. The registers of the hardware watchdog are not modelled: an evaluation takes the answer
of `hwEnable` and says which of the two hardware functions it has called.
-/

namespace HexapodVerified.Safety

open Transition

inductive TaskId where
  | control | dxl | rc | api | i2c | health | count
  deriving DecidableEq, Repr

def TaskId.index : TaskId → Nat
  | .control => 0
  | .dxl => 1
  | .rc => 2
  | .api => 3
  | .i2c => 4
  | .health => 5
  | .count => 6

abbrev kTaskCount : Nat := 6

/-- `kCriticalMask`: the control and the DXL task. -/
def kCriticalMask : UInt32 := ((1 : UInt32) <<< 0) ||| ((1 : UInt32) <<< 1)

inductive HwCall where
  | hwEnable | hwPet
  deriving DecidableEq, Repr

structure Watchdog where
  beats : Vector UInt32 kTaskCount := .replicate kTaskCount 0
  lastSeen : Vector UInt32 kTaskCount := .replicate kTaskCount 0
  missedMask : UInt32 := 0
  hwArmed : Bool := false
  windowPrimed : Bool := false

namespace Watchdog

/-- `init`, less the diagnostics of the last reset. -/
def init (_ : Watchdog) : Watchdog := {}

def checkIn (w : Watchdog) (id : TaskId) : Watchdog :=
  let i := id.index
  if h : i < kTaskCount then { w with beats := w.beats.set i (w.beats[i] + 1) } else w

/-- The body of the loop of `evaluate`, on `missed` and `g_lastSeen`. -/
def look (beats : Vector UInt32 kTaskCount) (seen : UInt32 × Vector UInt32 kTaskCount)
    (i : Fin kTaskCount) : UInt32 × Vector UInt32 kTaskCount :=
  let now := beats.get i
  (if now = seen.2.get i then seen.1 ||| (1 <<< UInt32.ofNat i) else seen.1, seen.2.setIfInBounds i now)

/-- `evaluate`; `enabled` is what `hwEnable` would return. -/
def evaluate (w : Watchdog) (enabled : Bool) : Watchdog × List HwCall :=
  if !w.windowPrimed then ({ w with lastSeen := w.beats, missedMask := 0, windowPrimed := true }, [])
  else
    let (missed, lastSeen) := (List.finRange kTaskCount).foldl (look w.beats) (0, w.lastSeen)
    let alive := missed &&& kCriticalMask == 0
    let arm := !w.hwArmed && alive && w.beats[TaskId.control.index] != 0 &&
      w.beats[TaskId.dxl.index] != 0
    let hwArmed := if arm then enabled else w.hwArmed
    ({ w with lastSeen, missedMask := missed, hwArmed },
      (if arm then [.hwEnable] else []) ++ if hwArmed && alive then [.hwPet] else [])

end Watchdog

inductive WatchdogCall where
  | checkIn (id : TaskId)
  | evaluate (enabled : Bool)
  deriving DecidableEq, Repr

def WatchdogCall.isEvaluate : WatchdogCall → Bool
  | .checkIn _ => false
  | .evaluate _ => true

def Watchdog.call (w : Watchdog) : WatchdogCall → Watchdog × List HwCall
  | .checkIn id => (w.checkIn id, [])
  | .evaluate enabled => w.evaluate enabled

abbrev WatchdogEvent := Event Watchdog (WatchdogCall × List HwCall)

/-- From `init`, the calls recorded in `h` lead to the watchdog `w`, whatever the tasks do in between the
evaluations. -/
abbrev WatchdogRun : List WatchdogEvent → Watchdog → Prop := Run (WithOutput Watchdog.call) (Watchdog.init {})

end HexapodVerified.Safety
