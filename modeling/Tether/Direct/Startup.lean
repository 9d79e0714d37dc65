import Tether.Direct.Network

/-!
The start of a session, step by step. The call binds one forward after another and spawns a loop for
each; when a forward cannot be bound, the call marks the session as closed and returns, and the
loops find that out by themselves. A loop accepts connections until it does, and drops its socket
then. The call, the loops and whoever connects take their steps in any order (`Startup.step`).
`Network.start` tells what comes of it once everything has settled.
-/

namespace Tether.Direct

open Tether.Net Tether.Overlay

/-- What the loop of a forward is doing. -/
inductive Watch
  /-- It was spawned, and has not begun. -/
  | spawned
  /-- It waits for a connection, or for the session to be closed. -/
  | watching
  /-- It pauses after an accept that failed. -/
  | pausing
  /-- It is over, and its socket is dropped. -/
  | gone
  deriving DecidableEq, Repr

/-- The loop of a forward, with what its next accepts find. -/
structure ForwardLoop where
  socket : Nat
  forward : Forward
  watch : Watch := .spawned
  arrived : List (Except Fault Endpoint) := []

/-- A step of a loop. -/
inductive LoopStep
  /-- It begins, and reads the address of its socket. -/
  | begin
  /-- It takes what there is to accept. -/
  | accept
  /-- Its pause ends. -/
  | resume
  /-- It sees that the session is closed. -/
  | stop
  deriving DecidableEq, Repr

/-- What a loop comes to by a step that it can take, and the source of the connection that it
dispatches; it is told whether the session is closed, also if that was so before the loop began, and
whether its socket has an address. -/
def ForwardLoop.step (l : ForwardLoop) (closed hasAddress : Bool) :
    LoopStep → Option (ForwardLoop × Option Endpoint)
  | .begin =>
    if l.watch = .spawned then
      some ({ l with watch := if hasAddress then .watching else .gone }, none)
    else none
  | .accept =>
    match l.watch, l.arrived with
    | .watching, .ok source :: rest => some ({ l with arrived := rest }, some source)
    | .watching, .error _ :: rest => some ({ l with watch := .pausing, arrived := rest }, none)
    | _, _ => none
  | .resume => if l.watch = .pausing then some ({ l with watch := .watching }, none) else none
  | .stop => if l.watch = .watching ∧ closed then some ({ l with watch := .gone }, none) else none

/-- A start at work. -/
structure Startup (Service : Type) where
  bindHost : Ip
  host : Host
  /-- The forwards that are still to be bound. -/
  rest : List Forward
  loops : List ForwardLoop := []
  closed : Bool := false
  fallback : Option (Endpoint → Endpoint → Routing Service) := none
  /-- What the fallback said of the connections that were offered to it. -/
  offers : List (Routing Service) := []
  /-- What the call returned. -/
  outcome : Option (Except Overlay.Error Unit) := none

/-- A step of all that goes on. -/
inductive Move (Service : Type)
  /-- The call goes on: it binds the next forward, or returns. -/
  | call
  /-- A loop goes on. -/
  | loop (index : Nat) (step : LoopStep)
  /-- A connection from somewhere, or a fault, comes to the socket of a loop. -/
  | arrive (index : Nat) (result : Except Fault Endpoint)
  /-- The session, which its owner has from the call, is given a fallback. -/
  | register (fallback : Endpoint → Endpoint → Routing Service)

/-- The move is one that the runtime makes by itself. -/
def Move.isOwn {Service : Type} : Move Service → Bool
  | .call | .loop _ _ => true
  | .arrive _ _ | .register _ => false

namespace Startup

variable {Service : Type}

/-- A start begins. -/
def begun (config : Config) (host : Host) : Startup Service where
  bindHost := config.bindHost
  host := host
  rest := config.forwards

/-- The call goes on. -/
def call (s : Startup Service) : Startup Service :=
  match s.rest with
  | [] => { s with outcome := some (.ok ()) }
  | f :: rest =>
    match s.host.bind s.bindHost f.listen with
    | .ok (host, socket) =>
      { s with host := host, rest := rest, loops := s.loops ++ [⟨socket, f, .spawned, []⟩] }
    | .error fault =>
      { s with closed := true, outcome := some (.error (.listen f.listen fault.text)) }

/-- A connection comes before the fallback, if there is one, with the destination that its forward
stands for. -/
def offer (s : Startup Service) (f : Forward) (source : Endpoint) : List (Routing Service) :=
  (s.fallback.map fun fallback => fallback source ⟨s.bindHost, f.overlay⟩).toList

/-- Everything behind a move, if it can be made. -/
def step (s : Startup Service) : Move Service → Option (Startup Service)
  | .call => if s.outcome.isNone then some s.call else none
  | .loop i step =>
    match s.loops[i]? with
    | none => none
    | some l =>
      match l.step s.closed (s.host.socket? l.socket).isSome step with
      | none => none
      | some (l', source?) =>
        some { s with
          loops := s.loops.set i l'
          host := if l'.watch = .gone then s.host.release l.socket else s.host
          offers := s.offers ++ (source?.map (s.offer l.forward)).getD [] }
  | .arrive i result =>
    match s.loops[i]? with
    | none => none
    | some l =>
      if l.watch = .gone then none
      else some { s with loops := s.loops.set i { l with arrived := l.arrived ++ [result] } }
  | .register fallback =>
    match s.outcome with
    | some (.ok ()) => some { s with fallback := some fallback }
    | _ => none

/-- Everything behind a row of moves, if they can be made. -/
def run (s : Startup Service) : List (Move Service) → Option (Startup Service)
  | [] => some s
  | m :: moves => (s.step m).bind (run · moves)

end Startup

end Tether.Direct
