import Tether.Direct.Config
import Tether.Disk.Tree
import Tether.Log
import Tether.Net.Host
import Tether.Overlay.Error
import Tether.Overlay.Options
import Tether.Overlay.Routing
import Tether.Overlay.Status
import Tether.Text.Quoted

/-!
The direct backend: sockets of this host stand in for the overlay. Starting a session binds every
forward of the configuration, in order; when one cannot be bound, the ones before it are let go and
the start fails. Closing a session lets go of its forwards, and nothing is accepted for it from then
on, but a socket that was opened by `listen` stays bound until its owner drops it.
-/

namespace Tether.Direct

open Tether.Disk Tether.Net Tether.Overlay Tether.Text

/-- A session. `Service` is what a fallback hands connections to. -/
structure Session (Service : Type) where
  hostname : String
  controlUrl : String
  bindHost : Ip
  closed : Bool := false
  /-- Decides about a connection by its source and the destination it is taken to aim at. -/
  fallback : Option (Endpoint → Endpoint → Routing Service) := none
  /-- The sockets bound for the forwards. -/
  forwards : List (Nat × Forward) := []

/-- A socket opened by `listen`. -/
structure Listener where
  session : Nat
  socket : Nat
  port : UInt16
  deriving DecidableEq, Repr

/-- The backend on its host. Sessions are numbered from one in the order of their start. -/
structure Network (Service : Type) where
  config : Config
  host : Host := {}
  tree : Tree := {}
  sessions : List (Session Service) := []
  log : List Entry := []

/-- The text of a configuration for diagnostics. -/
def Config.debugText (c : Config) : String :=
  recordLine "DirectConfig" [
    ("bind_host", c.bindHost.text),
    ("forward_ports", "[" ++ joinWith ", " (c.forwards.map Forward.debugText) ++ "]")]

namespace Session

variable {Service : Type}

/-- The text of a session for diagnostics. -/
def debugText (s : Session Service) : String :=
  recordLine "DirectSession" [
    ("hostname", quoted s.hostname), ("bind_host", s.bindHost.text),
    ("closed", toString s.closed)]

/-- What a client of the session finds out about the node. -/
def status (s : Session Service) : Status :=
  if s.closed then .detached "Stopped" else .joined ⟨s.controlUrl, ""⟩ [s.bindHost]

/-- Asks for a client; a closed session gives none. -/
def localClient (s : Session Service) : Except Overlay.Error Unit :=
  if s.closed then .error (.localClient "session closed") else .ok ()

/-- Where a connection on a forward is taken to aim. -/
def destination (s : Session Service) (f : Forward) : Endpoint := ⟨s.bindHost, f.overlay⟩

end Session

/-! ## Starting -/

/-- Binds forwards in order. The first that cannot be bound is told by its port and the fault. -/
def bindForwards (ip : Ip) (host : Host) :
    List Forward → Except (UInt16 × Fault) (Host × List (Nat × Forward))
  | [] => .ok (host, [])
  | f :: rest =>
    match host.bind ip f.listen with
    | .error fault => .error (f.listen, fault)
    | .ok (host, socket) =>
      match bindForwards ip host rest with
      | .error e => .error e
      | .ok (host, bound) => .ok (host, (socket, f) :: bound)

/-- What the log says about a start. -/
def startEntry (c : Config) (o : Options) : Entry :=
  ⟨.info, .direct, "Direct overlay session started", [
    ("hostname", o.hostname),
    ("control_url", o.controlUrl),
    ("ephemeral", toString o.ephemeral),
    ("bind_host", c.bindHost.text),
    ("forward_ports", "[" ++ joinWith ", " (c.forwards.map Forward.debugText) ++ "]")]⟩

/-- What the log says about a close. -/
def closeEntry (hostname : String) : Entry :=
  ⟨.info, .direct, "Direct overlay session closed", [("hostname", hostname)]⟩

namespace Network

variable {Service : Type}

/-- The text of the backend for diagnostics. -/
def debugText (n : Network Service) : String :=
  recordLine "DirectNetwork" [("config", n.config.debugText)]

/-- The session of a number. -/
def session? (n : Network Service) (id : Nat) : Option (Session Service) :=
  match id with
  | 0 => none
  | i + 1 => n.sessions[i]?

/-- Changes the session of a number. -/
def modifySession (n : Network Service) (id : Nat) (f : Session Service → Session Service) :
    Network Service :=
  match id with
  | 0 => n
  | i + 1 => { n with sessions := n.sessions.modify i f }

/-- Starts a session: its number, or why there is none. Directories that were made stay. -/
def start (n : Network Service) (o : Options) : Network Service × Except Overlay.Error Nat :=
  if o.authKey = "" then (n, .error (.start "auth key is empty"))
  else
    match n.tree.makeAll o.stateDir with
    | (tree, .error fault) =>
      ({ n with tree := tree }, .error (.start
        ("failed to create state directory " ++ o.stateDir ++ ": " ++ fault.text)))
    | (tree, .ok ()) =>
      match bindForwards n.config.bindHost n.host n.config.forwards with
      | .error (port, fault) => ({ n with tree := tree }, .error (.listen port fault.text))
      | .ok (host, forwards) =>
        let session : Session Service := {
          hostname := o.hostname
          controlUrl := o.controlUrl
          bindHost := n.config.bindHost
          forwards := forwards }
        ({ n with
            tree := tree
            host := host
            sessions := n.sessions ++ [session]
            log := n.log ++ [startEntry n.config o] },
          .ok (n.sessions.length + 1))

/-! ## Sessions -/

/-- Opens a socket on a port of a session. -/
def listen (n : Network Service) (id : Nat) (port : UInt16) :
    Network Service × Except Overlay.Error Listener :=
  match n.session? id with
  | none => (n, .error .closed)
  | some s =>
    if s.closed then (n, .error .closed)
    else
      match n.host.bind s.bindHost port with
      | .error fault => (n, .error (.listen port fault.text))
      | .ok (host, socket) =>
        let bound := ((host.socket? socket).map Endpoint.port).getD port
        ({ n with host := host }, .ok ⟨id, socket, bound⟩)

/-- Drops a listener. -/
def dropListener (n : Network Service) (l : Listener) : Network Service :=
  { n with host := n.host.release l.socket }

/-- Registers the fallback of a session. -/
def registerFallback (n : Network Service) (id : Nat)
    (fallback : Endpoint → Endpoint → Routing Service) : Network Service :=
  n.modifySession id fun s => { s with fallback := some fallback }

/-- Closes a session. Only the first close succeeds. -/
def close (n : Network Service) (id : Nat) : Network Service × Except Overlay.Error Unit :=
  match n.session? id with
  | none => (n, .error .closed)
  | some s =>
    if s.closed then (n, .error .closed)
    else
      let host := s.forwards.foldl (fun h f => h.release f.1) n.host
      let n := { n with host := host, log := n.log ++ [closeEntry s.hostname] }
      (n.modifySession id fun s => { s with closed := true, forwards := [] }, .ok ())

/-- Waits for a connection on a listener of a host without a link: none comes, so only the close of
the session ends the wait. -/
def accept? (n : Network Service) (l : Listener) : Option (Except Overlay.Error Endpoint) :=
  match n.session? l.session with
  | some s => if s.closed then some (.error .closed) else none
  | none => some (.error .closed)

/-! ## Connections from elsewhere -/

/-- What becomes of a connection. -/
inductive Arrival (Service : Type)
  /-- Nothing is bound where it aims, or nothing accepts there any more. -/
  | refused
  /-- It waits to be accepted on a listener's socket. -/
  | waiting (socket : Nat)
  /-- A forward brought it before the fallback of a session, which decided so. -/
  | offered (session : Nat) (routing : Routing Service)
  /-- A forward took it, but the session has no fallback. -/
  | dropped (session : Nat)

/-- The socket that a connection to an endpoint reaches. -/
def socketAt? (n : Network Service) (target : Endpoint) : Option Nat :=
  (n.host.sockets.find? fun s =>
    s.2.port == target.port && (s.2.ip == target.ip || s.2.ip.isUnspecified)).map Prod.fst

/-- The session and forward that a socket is bound for. -/
def forwardOf? (n : Network Service) (socket : Nat) : Option (Nat × Session Service × Forward) :=
  (n.sessions.zipIdx 1).findSome? fun (s, id) => (s.forwards.lookup socket).map fun f => (id, s, f)

/-- What becomes of a connection that reaches this host. -/
def arrive (n : Network Service) (source target : Endpoint) : Arrival Service :=
  match n.socketAt? target with
  | none => .refused
  | some socket =>
    match n.forwardOf? socket with
    | none => .waiting socket
    | some (id, s, f) =>
      match s.fallback with
      | none => .dropped id
      | some fallback => .offered id (fallback source (s.destination f))

end Network

end Tether.Direct
