import Tether.Net.Endpoint
import Tether.Overlay.Error
import Tether.Overlay.Options
import Tether.Overlay.Routing
import Tether.Overlay.Status
import Tether.Text.Record

/-!
An overlay network held in memory. Sessions are numbered from one in the order of their start and
stay on record after they close. The faults it shows are scripted: how many starts fail, whether
listening fails, and what each health check finds; once the script of health outcomes is used up,
every check finds an open session healthy.

A port of a session belongs to the listener opened on it last. Each listener has a queue of
connections; it learns that no more will come when another listener takes its port over or the
session closes. A connection to a port that nobody ever listened on goes to the session's fallback.
-/

namespace Tether.Sim

open Tether.Net Tether.Overlay Tether.Text

/-- What one health check finds. -/
inductive HealthOutcome
  /-- The node belongs to the network. -/
  | member
  /-- The node belongs to no network. -/
  | notMember
  /-- There is no client to ask. -/
  | localClientError
  /-- The client gives no status. -/
  | statusError
  deriving DecidableEq, Repr

/-- The finding of a name. -/
def HealthOutcome.ofName? : String → Option HealthOutcome
  | "Member" => some .member
  | "NotMember" => some .notMember
  | "LocalClientError" => some .localClientError
  | "StatusError" => some .statusError
  | _ => none

/-- What takes the connections that no listener claims. -/
inductive Fallback
  /-- Takes none. -/
  | pass
  /-- Sends back what it receives. -/
  | echo
  /-- Sends a text and closes. -/
  | greet (text : List UInt8)
  /-- Relays to a port of this host. -/
  | relay
  /-- Takes the connections between some ends, from the first to the second of a pair, as another
  one takes them, and no others. -/
  | between (ends : List (Endpoint × Endpoint)) (fallback : Fallback)
  deriving DecidableEq, Repr

/-- The decision of a fallback about a connection, by its two ends. -/
def Fallback.route (src dst : Endpoint) : Fallback → Routing Fallback
  | .pass => .pass
  | .between ends f => if (src, dst) ∈ ends then f.route src dst else .pass
  | f => .intercept f

/-- A connection, by its number and the end that dialed it. -/
structure Connection where
  id : Nat
  source : Endpoint
  deriving DecidableEq, Repr

/-- A listener: its port, the connections that wait for it, and whether its owner still has it. -/
structure Listener where
  port : UInt16
  waiting : List Connection
  held : Bool
  deriving DecidableEq, Repr

/-- A session: its options, whether it is closed, its fallback, and for each port that was listened
on the number of the latest listener there. -/
structure Session where
  options : Options
  closed : Bool
  fallback : Option Fallback
  ports : List (UInt16 × Nat)
  deriving DecidableEq, Repr

namespace Session

/-- The number of the listener that has a port. -/
def listenerOn (s : Session) (port : UInt16) : Option Nat := s.ports.lookup port

/-- The port was listened on. -/
def isListening (s : Session) (port : UInt16) : Bool := (s.listenerOn port).isSome

/-- Gives a port to a listener. -/
def assign (s : Session) (port : UInt16) (listener : Nat) : Session :=
  { s with ports := (port, listener) :: s.ports.filter (·.1 ≠ port) }

/-- A closed session has no ports. -/
def close (s : Session) : Session := { s with closed := true, ports := [] }

end Session

/-- The network: its sessions and listeners in the order of their numbers, and the faults to
come. -/
structure Network where
  sessions : List Session := []
  listeners : List Listener := []
  health : List HealthOutcome := []
  startFailures : Nat := 0
  failListen : Bool := false
  healthChecks : Nat := 0
  dials : Nat := 0
  deriving DecidableEq, Repr

namespace Network

/-- The session of a number. -/
def session? (n : Network) (id : Nat) : Option Session :=
  match id with
  | 0 => none
  | i + 1 => n.sessions[i]?

/-- Changes the session of a number. -/
def modifySession (n : Network) (id : Nat) (f : Session → Session) : Network :=
  match id with
  | 0 => n
  | i + 1 => { n with sessions := n.sessions.modify i f }

/-- The session of a number was started and is open. -/
def isOpen (n : Network) (id : Nat) : Bool :=
  match n.session? id with
  | some s => !s.closed
  | none => false

/-- The number of open sessions. -/
def openCount (n : Network) : Nat := (n.sessions.filter (!·.closed)).length

/-- The numbers of the closed sessions. -/
def closedIds (n : Network) : List Nat :=
  (List.range n.sessions.length).filterMap fun i =>
    match n.sessions[i]? with
    | some s => if s.closed then some (i + 1) else none
    | none => none

/-! ## Faults -/

/-- Adds health outcomes to the script. -/
def scriptHealth (n : Network) (outcomes : List HealthOutcome) : Network :=
  { n with health := n.health ++ outcomes }

/-- Lets the next starts fail, so many of them. -/
def failNextStarts (n : Network) (count : Nat) : Network := { n with startFailures := count }

/-- Lets listening fail, or lets it succeed again. -/
def setFailListen (n : Network) (fail : Bool) : Network := { n with failListen := fail }

/-! ## Sessions -/

/-- Starts a session; its number comes back. -/
def start (n : Network) (options : Options) : Network × Except Error Nat :=
  match n.startFailures with
  | k + 1 => ({ n with startFailures := k }, .error (.start "mock start failure"))
  | 0 =>
    ({ n with sessions := n.sessions ++ [⟨options, false, none, []⟩] }, .ok (n.sessions.length + 1))

/-- Listens on a port of a session; the number of the listener comes back. -/
def listen (n : Network) (id : Nat) (port : UInt16) : Network × Except Error Nat :=
  if !n.isOpen id then (n, .error .closed)
  else if n.failListen then (n, .error (.listen port "mock listen failure"))
  else
    let listener := n.listeners.length
    let n := n.modifySession id (·.assign port listener)
    ({ n with listeners := n.listeners ++ [⟨port, [], true⟩] }, .ok listener)

/-- Gives a session its fallback. -/
def setFallback (n : Network) (id : Nat) (fallback : Fallback) : Network :=
  n.modifySession id ({ · with fallback := some fallback })

/-- Closes a session; only the first close succeeds. -/
def close (n : Network) (id : Nat) : Network × Except Error Unit :=
  if n.isOpen id then (n.modifySession id Session.close, .ok ()) else (n, .error .closed)

/-! ## Connections -/

/-- What became of a dial. -/
inductive Dialed
  /-- Nothing took the connection. -/
  | refused
  /-- The connection waits for a listener. -/
  | queued (connection : Connection) (listener : Nat)
  /-- The fallback was asked; it took the connection, or left it. -/
  | asked (connection : Connection) (routing : Routing Fallback)
  deriving DecidableEq, Repr

/-- Dials a port of a session. -/
def dial (n : Network) (id : Nat) (src dst : Endpoint) : Network × Dialed :=
  match n.session? id with
  | none => (n, .refused)
  | some s =>
    if s.closed then (n, .refused)
    else
      let connection : Connection := ⟨n.dials, src⟩
      let n := { n with dials := n.dials + 1 }
      match s.listenerOn dst.port with
      | some l =>
        if (n.listeners[l]?.map Listener.held).getD false then
          ({ n with
              listeners := n.listeners.modify l fun x =>
                { x with waiting := x.waiting ++ [connection] } },
            .queued connection l)
        else (n, .refused)
      | none =>
        match s.fallback with
        | some f => (n, .asked connection (f.route src dst))
        | none => (n, .refused)

/-- What an accept finds. -/
inductive Accepted
  /-- The connection that waited longest. -/
  | connection (connection : Connection)
  /-- No connection now. -/
  | pending
  /-- No connection any more. -/
  | closed
  deriving DecidableEq, Repr

/-- Connections can still come to a listener: it has a port of some session. -/
def isFed (n : Network) (listener : Nat) : Bool :=
  n.sessions.any fun s => s.ports.any (·.2 == listener)

/-- Takes the next connection that waits for a listener. -/
def accept (n : Network) (listener : Nat) : Network × Accepted :=
  match n.listeners[listener]? with
  | none => (n, .closed)
  | some l =>
    match l.waiting with
    | c :: rest =>
      ({ n with listeners := n.listeners.modify listener fun x => { x with waiting := rest } },
        .connection c)
    | [] => (n, if n.isFed listener then .pending else .closed)

/-- Lets a listener go; the connections that waited for it come back. -/
def release (n : Network) (listener : Nat) : Network × List Connection :=
  ({ n with
      listeners := n.listeners.modify listener fun x => { x with waiting := [], held := false } },
    (n.listeners[listener]?.map Listener.waiting).getD [])

/-! ## Health -/

/-- Asks for the client of a session. -/
def localClient (n : Network) : Network × Except Error Unit :=
  match n.health with
  | .localClientError :: rest =>
    ({ n with health := rest }, .error (.localClient "mock local client failure"))
  | _ => (n, .ok ())

/-- Asks the client of a session for the status. -/
def status (n : Network) (id : Nat) : Network × Except Error Status :=
  let n := { n with healthChecks := n.healthChecks + 1 }
  if !n.isOpen id then (n, .ok (.detached "Stopped"))
  else
    let (outcome, n) := match n.health with
      | [] => (HealthOutcome.member, n)
      | o :: rest => (o, { n with health := rest })
    match outcome with
    | .member => (n, .ok (.joined ⟨"mock.net", "mock.ts.net"⟩ []))
    | .notMember => (n, .ok (.detached "NeedsLogin"))
    | .statusError | .localClientError => (n, .error (.status "mock status failure"))

/-! ## Diagnostics -/

/-- The text of a session for diagnostics. -/
def sessionDebugText (id : Nat) (s : Session) : String :=
  recordLine "MockSession" [
    ("id", toString id), ("hostname", quoted s.options.hostname), ("closed", toString s.closed)]

/-- The text of the network for diagnostics. -/
def debugText (n : Network) : String :=
  recordLine "MockNetwork" [("sessions", toString n.sessions.length)]

/-- The text of a listener for diagnostics. -/
def listenerDebugText (port : UInt16) : String :=
  recordLine "MockListener" [("port", toString port.toNat)]

end Network

end Tether.Sim
