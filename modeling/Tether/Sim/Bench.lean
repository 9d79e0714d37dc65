import Tether.Agent.Factory
import Tether.Agent.Liveness
import Tether.Control.Source
import Tether.Sim.Service

/-!
A bench: an overlay network in memory, the streams that run over it, and the endpoints and services
at work on them, under one clock. After each step everything runs until it waits; the clock moves
only when it is told to, and stops on its way at every time at which an endpoint's pause is over.
-/

namespace Tether.Sim

open Tether.Agent Tether.Control Tether.Net Tether.Overlay

/-- The bytes that a channel of an overlay stream holds. -/
def streamCapacity : Nat := 65536

/-- A liveness endpoint on the bench: its listener, how many of its accepts will still fail, what it
is doing, and whether a build set it up. -/
structure Server where
  listener : Nat
  failures : Nat
  state : Liveness
  ofBuild : Bool
  deriving DecidableEq, Repr

/-- The fault of an accept that is made to fail. -/
def tooManyFiles : Overlay.Error := .io ⟨"Other", "too many open files"⟩

/-- A connection in the hands of a responder: the listener that it came from, and when the endpoint
handed it on. -/
structure Handing where
  listener : Nat
  time : Nat
  connection : Connection
  deriving DecidableEq, Repr

/-- The bench. -/
structure Bench where
  net : Network := {}
  streams : List (Nat × Duplex) := []
  services : List (Nat × Service) := []
  servers : List Server := []
  source : Source := .ofScript []
  retry : Time.Span := .ofSeconds 5
  settings : Settings := ⟨"node-a", "https://control.example.com", "/var/lib/overlink", 80⟩
  now : Nat := 0
  handed : List Handing := []
  log : List Entry := []

namespace Bench

/-! ## Settling -/

/-- The results of the accepts that an endpoint can make now. -/
def accepts (net : Network) (server : Server) : List (Except Overlay.Error Connection) :=
  if 0 < server.failures then [.error tooManyFiles]
  else
    ((net.listeners[server.listener]?.map Listener.waiting).getD []).map Except.ok ++
      (if net.isFed server.listener then [] else [.error .closed])

/-- One endpoint runs until it waits; each connection it takes gets a responder. -/
def runServer (b : Bench) (index : Nat) : Bench :=
  match b.servers[index]? with
  | none => b
  | some server =>
    if server.state ≠ .accepting then b
    else
      let (state, taken, log) := Liveness.serve b.now server.state (accepts b.net server)
      let stopped := match state with
        | .ended e => if server.ofBuild then [Liveness.stoppedEntry e] else []
        | _ => []
      { b with
        net := taken.foldl (fun net _ => (net.accept server.listener).1) b.net
        services := b.services ++ taken.map fun c => (c.id, .liveness c.source {} [])
        servers := b.servers.set index
          { server with failures := server.failures - 1, state := state }
        handed := b.handed ++ taken.map (⟨server.listener, b.now, ·⟩)
        log := b.log ++ log ++ stopped }

/-- One service runs until it waits. -/
def runService (b : Bench) (entry : Nat × Service) : Bench :=
  match b.streams.lookup entry.1 with
  | none => b
  | some d =>
    let (s, d, log) := entry.2.run d
    { b with
      streams := b.streams.map fun x => if x.1 = entry.1 then (x.1, d) else x
      services := b.services.filterMap fun x =>
        if x.1 = entry.1 then if s = .over then none else some (x.1, s) else some x
      log := b.log ++ log }

/-- Everything runs until it waits. -/
def settle (b : Bench) : Bench :=
  let b := (List.range b.servers.length).foldl runServer b
  b.services.foldl runService b

/-! ## Time -/

/-- The first time at which a pause is over. -/
def alarm? (b : Bench) : Option Nat := (b.servers.filterMap fun s => s.state.due?).min?

/-- The clock stands at a time; the pauses that are over end. -/
def wakeAt (b : Bench) (time : Nat) : Bench :=
  settle { b with
    now := time
    servers := b.servers.map fun s => { s with state := s.state.wake time } }

/-- Moves the clock to a time, with at most so many stops on the way. -/
def moveTo (target : Nat) : Nat → Bench → Bench
  | 0, b => { b with now := target }
  | stops + 1, b =>
    match b.alarm? with
    | some t => if t ≤ target then moveTo target stops (b.wakeAt t) else { b with now := target }
    | none => { b with now := target }

/-- The most stops that the clock can still make: an endpoint pauses once for each failure. -/
def stops (b : Bench) : Nat := b.servers.foldl (fun n s => n + s.failures + 1) 0

/-- Moves the clock on. -/
def advance (b : Bench) (time : Nat) : Bench := moveTo (b.now + time) b.stops b

/-! ## Steps on the network -/

/-- Changes the network alone. -/
def onNet (b : Bench) (f : Network → Network) : Bench := { b with net := f b.net }

/-- Starts a session. -/
def start (b : Bench) (options : Options) : Bench × Except Overlay.Error Nat :=
  let (net, r) := b.net.start options
  ({ b with net := net }, r)

/-- Listens on a port of a session. -/
def listen (b : Bench) (session : Nat) (port : UInt16) : Bench × Except Overlay.Error Nat :=
  let (net, r) := b.net.listen session port
  (settle { b with net := net }, r)

/-- Closes a session. -/
def close (b : Bench) (session : Nat) : Bench × Except Overlay.Error Unit :=
  let (net, r) := b.net.close session
  (settle { b with net := net }, r)

/-- Takes the next connection of a listener. -/
def accept (b : Bench) (listener : Nat) : Bench × Network.Accepted :=
  let (net, r) := b.net.accept listener
  ({ b with net := net }, r)

/-- Asks for a client. -/
def localClient (b : Bench) : Bench × Except Overlay.Error Unit :=
  let (net, r) := b.net.localClient
  ({ b with net := net }, r)

/-- Asks the client of a session for the status. -/
def status (b : Bench) (session : Nat) : Bench × Except Overlay.Error Status :=
  let (net, r) := b.net.status session
  ({ b with net := net }, r)

/-- An end of a stream goes away. -/
def dropEnd (b : Bench) (stream : Nat) (side : Side) : Bench :=
  settle { b with
    streams := b.streams.map fun x => if x.1 = stream then (x.1, x.2.drop side) else x }

/-- Lets a listener go, and with it the connections that waited for it. -/
def release (b : Bench) (listener : Nat) : Bench :=
  let (net, waiting) := b.net.release listener
  waiting.foldl (fun b c => b.dropEnd c.id .acceptor) { b with net := net }

/-- Sets up a liveness endpoint on a listener. -/
def serve (b : Bench) (listener failures : Nat) (ofBuild : Bool) : Bench :=
  let port := (b.net.listeners[listener]?.map Listener.port).getD 0
  settle { b with
    servers := b.servers ++ [⟨listener, failures, .accepting, ofBuild⟩]
    log := b.log ++ [Liveness.servingEntry port] }

/-- Dials a port of a session; the number of the stream comes back, if there is one, and the
fallback that was asked. -/
def dial (b : Bench) (session : Nat) (src dst : Endpoint) : Bench × Option Nat × Option Fallback :=
  let asked := (b.net.session? session).bind Session.fallback
  match b.net.dial session src dst with
  | (net, .refused) => ({ b with net := net }, none, none)
  | (net, .queued c _) =>
    (settle { b with
      net := net, streams := b.streams ++ [(c.id, .ofCapacity streamCapacity)] }, some c.id, none)
  | (net, .asked _ .pass) => ({ b with net := net }, none, asked)
  | (net, .asked c (.intercept f)) =>
    (settle { b with
      net := net
      streams := b.streams ++ [(c.id, .ofCapacity streamCapacity)]
      services := b.services ++ [(c.id, .ofFallback f)] }, some c.id, asked)

/-- What an asker for a session gets from a build: the session, an error, or nothing in time. -/
def build (b : Bench) (deadline : Nat) : Bench × Option (Except Agent.Error Nat) :=
  let run := b.source.obtain b.retry b.now (b.now + deadline)
  let b := { b with source := run.source, log := b.log ++ run.log }
  let b := b.advance (run.now - b.now)
  match run.progress with
  | .pursuing _ => (b, none)
  | .got key =>
    match Agent.build b.net b.settings key with
    | (net, .ready session listener) =>
      let b := { b with net := net, log := b.log ++ [establishedEntry b.settings] }
      (b.serve listener 0 true, some (.ok session))
    | (net, .halfBuilt _ cause) => (settle { b with net := net }, some (.error (.liveness cause)))
    | (net, .notStarted cause) => ({ b with net := net }, some (.error (.sessionStart cause)))

/-! ## Steps on streams -/

/-- A stream by its number. -/
def stream? (b : Bench) (stream : Nat) : Option Duplex := b.streams.lookup stream

/-- Replaces a stream. -/
def setStream (b : Bench) (stream : Nat) (d : Duplex) : Bench :=
  { b with streams := b.streams.map fun x => if x.1 = stream then (x.1, d) else x }

/-- An end of a stream writes. -/
def write (b : Bench) (stream : Nat) (side : Side) (bytes : List UInt8) : Bench × Written :=
  match b.stream? stream with
  | none => (b, .broken)
  | some d =>
    let (d, w) := d.write side bytes
    (settle (b.setStream stream d), w)

/-- An end of a stream reads all there is, or up to a number of bytes. -/
def read (b : Bench) (stream : Nat) (side : Side) (limit : Option Nat) :
    Bench × List UInt8 × Stop :=
  match b.stream? stream with
  | none => (b, [], .ended)
  | some d =>
    let (d, bytes, stop) := d.drain side limit
    (settle (b.setStream stream d), bytes, stop)

/-- An end of a stream writes no more. -/
def shutdown (b : Bench) (stream : Nat) (side : Side) : Bench :=
  match b.stream? stream with
  | none => b
  | some d => settle (b.setStream stream (d.shutdown side))

end Bench

end Tether.Sim
