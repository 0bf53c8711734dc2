import HexapodVerified.Safety.StateMachine

/-!
# The command arbiter

`safety/command_arbiter.cpp`: which client owns motion authority. The requests for the arbiter's own lock
have no caller in the firmware and are left out: it mirrors the lock of the maintenance protocol through
`setExternalMacLock`. Times are `uint32_t` milliseconds and wrap.
-/

namespace HexapodVerified.Safety

structure ArbiterParams where
  jetson_ttl_ms : UInt32 := 250
  mac_lock_ttl_ms : UInt32 := 1000
  deriving DecidableEq, Repr

/-- `RcInputs`: the RC state of one arbitration cycle. -/
structure RcInputs where
  ever_seen : Bool := false
  kill : Bool := false
  failsafe : Bool := false
  armed : Bool := false
  autonomy_enabled : Bool := false
  deriving DecidableEq, Repr

structure ArbiterOutput where
  source : CommandSource := .none
  motion_authorized : Bool := false
  kill_active : Bool := false
  mac_lock_held : Bool := false
  mac_lock_token : UInt32 := 0
  deriving DecidableEq, Repr

/-- `CommandArbiter`; the defaults are those of `reset`. -/
structure CommandArbiter where
  params : ArbiterParams := {}
  out : ArbiterOutput := { kill_active := true }
  jetson_seen : Bool := false
  jetson_last_ms : UInt32 := 0
  mac_lock_active : Bool := false
  mac_lock_token : UInt32 := 0
  mac_lock_last_ms : UInt32 := 0
  ext_mac_held : Bool := false
  ext_mac_token : UInt32 := 0
  ext_mac_failsafe_recovery : Bool := false
  host_estop : Bool := false
  last_kill : Bool := true
  last_armed : Bool := false
  deriving DecidableEq, Repr

namespace CommandArbiter

/-- `CommandArbiter::reset`; the parameters stay. -/
def reset (a : CommandArbiter) : CommandArbiter := { params := a.params }

def jetsonFresh (a : CommandArbiter) (now_ms : UInt32) : Bool :=
  a.jetson_seen && decide (now_ms - a.jetson_last_ms ≤ a.params.jetson_ttl_ms)

def jetsonHeartbeat (a : CommandArbiter) (now_ms : UInt32) : CommandArbiter :=
  { a with jetson_seen := true, jetson_last_ms := now_ms }

def setHostEstop (a : CommandArbiter) (on : Bool) : CommandArbiter := { a with host_estop := on }

def setExternalMacLock (a : CommandArbiter) (held : Bool) (token : UInt32)
    (failsafe_recovery : Bool) : CommandArbiter :=
  { a with
    ext_mac_held := held
    ext_mac_token := if held then token else 0
    ext_mac_failsafe_recovery := held && failsafe_recovery }

def macLockValid (a : CommandArbiter) (now_ms : UInt32) : Bool :=
  a.mac_lock_active && decide (now_ms - a.mac_lock_last_ms ≤ a.params.mac_lock_ttl_ms)

def macLockHeld (a : CommandArbiter) (now_ms : UInt32) : Bool :=
  a.macLockValid now_ms || a.ext_mac_held

def revokeMacLock (a : CommandArbiter) : CommandArbiter :=
  { a with mac_lock_active := false, mac_lock_token := 0, mac_lock_last_ms := 0 }

/-- `stale_failsafe_recovery`: a recovery lock suppresses the kill a stale link asserts. -/
def staleFailsafeRecovery (a : CommandArbiter) (rc : RcInputs) : Bool :=
  a.ext_mac_held && a.ext_mac_failsafe_recovery && rc.ever_seen && rc.kill && rc.failsafe &&
    !rc.armed

def killActive (a : CommandArbiter) (rc : RcInputs) : Bool :=
  (rc.kill && !a.staleFailsafeRecovery rc) || a.host_estop

/-- The source that owns motion when nothing is killed, and whether it may drive. -/
def ownerOf (a : CommandArbiter) (rc : RcInputs) (now_ms : UInt32) : CommandSource × Bool :=
  if a.macLockHeld now_ms then (.macMaintenance, true)
  else if rc.armed && rc.autonomy_enabled && a.jetsonFresh now_ms then (.jetson, true)
  else if rc.armed then (.rc, true)
  else (.none, false)

/-- The branch of a kill: every lock is revoked and nobody owns motion. -/
def shutOut (a : CommandArbiter) : CommandArbiter :=
  { a.revokeMacLock with
    ext_mac_held := false
    ext_mac_token := 0
    ext_mac_failsafe_recovery := false
    out := { kill_active := true } }

/-- An expired lock is cleared, so that a stale token cannot refresh it. -/
def expireMacLock (a : CommandArbiter) (now_ms : UInt32) : CommandArbiter :=
  if !a.macLockHeld now_ms && a.mac_lock_active then a.revokeMacLock else a

def grant (a : CommandArbiter) (rc : RcInputs) (now_ms : UInt32) : CommandArbiter :=
  let a := a.expireMacLock now_ms
  { a with
    out :=
      { source := (a.ownerOf rc now_ms).1
        motion_authorized := (a.ownerOf rc now_ms).2
        kill_active := false
        mac_lock_held := a.macLockHeld now_ms
        mac_lock_token := if a.macLockValid now_ms then a.mac_lock_token
          else if a.ext_mac_held then a.ext_mac_token else 0 } }

/-- `CommandArbiter::update`; the result is the `out` of the arbiter afterwards. -/
def update (a : CommandArbiter) (rc : RcInputs) (now_ms : UInt32) : CommandArbiter :=
  let kill_active := a.killActive rc
  let a := { a with last_kill := kill_active, last_armed := rc.armed }
  if kill_active then a.shutOut else a.grant rc now_ms

end CommandArbiter

end HexapodVerified.Safety
