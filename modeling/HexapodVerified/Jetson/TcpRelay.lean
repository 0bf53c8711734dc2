import HexapodVerified.Lib.Runs

/-!
# The relay of the Jetson

`jetson/src/hexapod_jetson_bridge/tcp_relay.py`, with the handshake of `companion/src/transport/tcp_proxy.py`:
a server lends its USB stream to one authenticated client at a time. The thread that accepts connections and
the session worker of a client are state machines whose steps interleave; every operation on a socket may
fail. What a session copies is left out, and so is the end of the server.
-/

namespace HexapodVerified.Jetson

open Transition

def ascii (text : String) : List UInt8 := text.toList.map fun c => UInt8.ofNat c.toNat

def RELAY_AUTH_PREFIX : List UInt8 := ascii "HEXAPOD_RELAY/1 "
def RELAY_OK : List UInt8 := ascii "OK"
def RELAY_UNAUTHORIZED : List UInt8 := ascii "UNAUTHORIZED"
def RELAY_BUSY : List UInt8 := ascii "BUSY"
abbrev MAX_RELAY_HANDSHAKE_BYTES : Nat := 512

abbrev NEWLINE : UInt8 := 10

/-- `str.isspace` of an ASCII character. -/
def isSpace (character : UInt8) : Bool :=
  (9 ≤ character && character ≤ 13) || (28 ≤ character && character ≤ 32)

/-- `validate_relay_token`: the text of the `ValueError`. -/
def validateRelayToken (token : List UInt8) : Except String Unit :=
  if token = [] ∨ token.length > 256 ∨ token.any isSpace then
    .error "relay token must be a non-empty single token"
  else if token.any (128 ≤ ·) then .error "relay token must contain ASCII characters only"
  else .ok ()

def parseRelayAuth (line : List UInt8) : Except String (List UInt8) :=
  if ¬ RELAY_AUTH_PREFIX.isPrefixOf line then .error "missing relay authentication preamble"
  else
    let token := line.drop RELAY_AUTH_PREFIX.length
    if token.any (128 ≤ ·) then .error "relay token must contain ASCII characters only"
    else do
      validateRelayToken token
      return token

/-- `receive_relay_line`: the line and what was received behind it. The list is what the calls of `recv`
return, up to the one that raises. -/
def receiveRelayLine : List (List UInt8) → List UInt8 → Except String (List UInt8 × List UInt8)
  | chunks, buffered =>
    if NEWLINE ∈ buffered then
      .ok (buffered.takeWhile (· ≠ NEWLINE), (buffered.dropWhile (· ≠ NEWLINE)).tail)
    else if buffered.length ≥ MAX_RELAY_HANDSHAKE_BYTES then
      .error "relay authentication preamble is too long"
    else
      match chunks with
      | [] => .error "timed out"
      | chunk :: chunks =>
        if chunk = [] then .error "relay closed during authentication"
        else
          receiveRelayLine chunks
            (buffered ++ chunk.take (min 256 (MAX_RELAY_HANDSHAKE_BYTES - buffered.length)))

/-- Whether a client has the token of the relay, and what it sent behind its line. -/
def authenticate (token : List UInt8) (chunks : List (List UInt8)) :
    Except String (Bool × List UInt8) := do
  let (line, initial_data) ← receiveRelayLine chunks []
  let received ← parseRelayAuth line
  return (received == token, initial_data)

/-- Where the thread of `_accept_loop` is; connections are numbered as they are accepted. -/
inductive AcceptWorker where
  | accepting
  | authenticating (connection : Nat)
  /-- before the `UNAUTHORIZED` line -/
  | refusing (connection : Nat)
  /-- before the slot is looked at -/
  | claiming (connection : Nat) (initial_data : List UInt8)
  /-- before the `OK` line -/
  | confirming (connection : Nat) (initial_data : List UInt8)
  /-- before the timeout of the session is set -/
  | configuring (connection : Nat) (initial_data : List UInt8)
  /-- before the session worker is started -/
  | starting (connection : Nat) (initial_data : List UInt8)
  | returned
  deriving DecidableEq, Repr

/-- Where a thread of `_serve_client` is: copying, before `connection.close`, before the slot is given
back. -/
inductive SessionWorker where
  | relaying (initial_data : List UInt8)
  | closing
  | releasing
  deriving DecidableEq, Repr

/-- `TcpRelayServer`, with its threads. -/
structure TcpRelayServer where
  token : List UInt8
  client : Option Nat
  session_worker : Option Nat
  accepted : Nat
  accept_worker : AcceptWorker
  sessions : Nat → Option SessionWorker

/-- What `listener.accept` does. -/
inductive AcceptOutcome where
  | connected | timedOut | failed
  deriving DecidableEq, Repr

/-- The steps. `ok` tells whether the operations on the socket succeed. -/
inductive RelayAction where
  | accept (outcome : AcceptOutcome)
  | receive (chunks : List (List UInt8))
  | refuse (ok : Bool)
  | claim (ok : Bool)
  | confirm (ok : Bool)
  | configure (ok : Bool)
  | start
  | finish (connection : Nat)
  | close (connection : Nat) (ok : Bool)
  | release (connection : Nat)
  deriving DecidableEq, Repr

abbrev Reply : Type := Nat × List UInt8

namespace TcpRelayServer

def new (token : List UInt8) : TcpRelayServer where
  token := token
  client := none
  session_worker := none
  accepted := 0
  accept_worker := .accepting
  sessions := fun _ => none

variable (s : TcpRelayServer)

def goTo (accept_worker : AcceptWorker) : TcpRelayServer := { s with accept_worker }

/-- A session worker goes on at another place, or ends. -/
def session (connection : Nat) (worker : Option SessionWorker) : TcpRelayServer :=
  { s with sessions := Function.update s.sessions connection worker }

/-- A step of the accept thread. Whatever raises in `_authenticate_or_reject` ends with a closed
connection and the next `accept`. -/
def acceptStep : AcceptWorker → RelayAction → Option (TcpRelayServer × List Reply)
  | .accepting, .accept .connected =>
    some ({ s with accept_worker := .authenticating s.accepted, accepted := s.accepted + 1 }, [])
  | .accepting, .accept .timedOut => some (s, [])
  | .accepting, .accept .failed => some (s.goTo .returned, [])
  | .authenticating connection, .receive chunks =>
    match authenticate s.token chunks with
    | .error _ => some (s.goTo .accepting, [])
    | .ok (false, _) => some (s.goTo (.refusing connection), [])
    | .ok (true, initial_data) => some (s.goTo (.claiming connection initial_data), [])
  | .refusing connection, .refuse _ =>
    some (s.goTo .accepting, [(connection, RELAY_UNAUTHORIZED)])
  | .claiming connection initial_data, .claim _ =>
    if s.client.isSome then some (s.goTo .accepting, [(connection, RELAY_BUSY)])
    else
      some ({ s with client := some connection,
                     accept_worker := .confirming connection initial_data }, [])
  | .confirming connection initial_data, .confirm ok =>
    some (s.goTo (if ok then .configuring connection initial_data else .accepting),
      [(connection, RELAY_OK)])
  | .configuring connection initial_data, .configure ok =>
    some (s.goTo (if ok then .starting connection initial_data else .accepting), [])
  | .starting connection initial_data, .start =>
    some (({ s with session_worker := some connection }.goTo .accepting).session connection
      (some (.relaying initial_data)), [])
  | _, _ => none

/-- The end of a session worker: the slot is given back when it is still the one of its connection. -/
def release (connection : Nat) : TcpRelayServer :=
  if s.client = some connection then { s with client := none, session_worker := none } else s

/-- A step of a session worker. What `shutdown` raises is caught, what `close` raises ends the thread. -/
def sessionStep : RelayAction → Option (TcpRelayServer × List Reply)
  | .finish connection =>
    match s.sessions connection with
    | some (.relaying _) => some (s.session connection (some .closing), [])
    | _ => none
  | .close connection ok =>
    match s.sessions connection with
    | some .closing => some (s.session connection (if ok then some .releasing else none), [])
    | _ => none
  | .release connection =>
    match s.sessions connection with
    | some .releasing => some ((s.release connection).session connection none, [])
    | _ => none
  | _ => none

def step (action : RelayAction) : Option (TcpRelayServer × List Reply) :=
  match action with
  | .finish _ | .close _ _ | .release _ => s.sessionStep action
  | _ => s.acceptStep s.accept_worker action

def Step (s : TcpRelayServer) (io : RelayAction × List Reply) (t : TcpRelayServer) : Prop :=
  s.step io.1 = some (t, io.2)

end TcpRelayServer

abbrev RelayEvent := Event TcpRelayServer (RelayAction × List Reply)

/-- From a server that was started with this token, the steps recorded in `h` lead to `s`. -/
abbrev RelayRun (token : List UInt8) : List RelayEvent → TcpRelayServer → Prop :=
  Run TcpRelayServer.Step (.new token)

end HexapodVerified.Jetson
