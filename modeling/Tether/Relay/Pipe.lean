import Tether.Net.Duplex
import Tether.Relay.Copy

/-!
A pipe: two copies between the stream that came in and the stream to a local service, one in each
direction. The first copy to end cancels the other; both then close the channel they wrote into, and
the pipe lets go of both streams.
-/

namespace Tether.Relay

open Tether.Net

/-- A pipe between the accepting end of one stream and the dialing end of another. -/
structure Pipe where
  inbound : Duplex
  outbound : Duplex
  toLocal : Copy
  toRemote : Copy
  /-- What was moved, once the pipe has returned. -/
  stats : Option Stats
  deriving DecidableEq, Repr

namespace Pipe

/-- A pipe between two fresh streams of these capacities. -/
def ofCapacities (inbound outbound : Nat) : Pipe :=
  ⟨.ofCapacity inbound, .ofCapacity outbound, .fresh, .fresh, none⟩

/-- Both copies do all they can. -/
def runCopies (p : Pipe) : Pipe :=
  let (toLocal, up, up') := p.toLocal.run p.inbound.fromDialer p.outbound.fromDialer
  let (toRemote, down, down') := p.toRemote.run p.outbound.fromAcceptor p.inbound.fromAcceptor
  { p with
    toLocal := toLocal
    toRemote := toRemote
    inbound := ⟨up, down'⟩
    outbound := ⟨up', down⟩ }

/-- Ends both copies and lets go of both streams. -/
def finish (p : Pipe) : Pipe :=
  let toLocal := p.toLocal.cancel
  let toRemote := p.toRemote.cancel
  { inbound := (p.inbound.shutdown .acceptor).drop .acceptor
    outbound := (p.outbound.shutdown .dialer).drop .dialer
    toLocal := toLocal
    toRemote := toRemote
    stats := some (.ofCopies toLocal toRemote) }

/-- The pipe does all it can. -/
def settle (p : Pipe) : Pipe :=
  if p.stats.isSome then p
  else
    let p := p.runCopies
    if p.toLocal.isAlive && p.toRemote.isAlive then p else p.finish

/-! ## The two ends -/

/-- The ends of a pipe: whoever dialed in, and the local service. -/
inductive End
  | client
  | service
  deriving DecidableEq, Repr

/-- The stream at an end. -/
def streamAt (p : Pipe) : End → Duplex
  | .client => p.inbound
  | .service => p.outbound

/-- The side of the stream at an end. -/
def End.side : End → Side
  | .client => .dialer
  | .service => .acceptor

/-- Replaces the stream at an end. -/
def setStreamAt (p : Pipe) (e : End) (d : Duplex) : Pipe :=
  match e with
  | .client => { p with inbound := d }
  | .service => { p with outbound := d }

/-- An end writes. -/
def write (p : Pipe) (e : End) (bytes : List UInt8) : Pipe × Written :=
  let (d, w) := (p.streamAt e).write e.side bytes
  ((p.setStreamAt e d).settle, w)

/-- An end reads all there is, or up to a number of bytes. -/
def read (p : Pipe) (e : End) (limit : Option Nat) : Pipe × List UInt8 × Stop :=
  let (d, bytes, stop) := (p.streamAt e).drain e.side limit
  ((p.setStreamAt e d).settle, bytes, stop)

/-- An end writes no more. -/
def shutdown (p : Pipe) (e : End) : Pipe :=
  (p.setStreamAt e ((p.streamAt e).shutdown e.side)).settle

/-- An end goes away. -/
def drop (p : Pipe) (e : End) : Pipe := (p.setStreamAt e ((p.streamAt e).drop e.side)).settle

/-- What the log says about a pipe that has returned. -/
def entries (p : Pipe) : List Entry :=
  if p.stats.isSome then p.toLocal.endEntries "to_local" ++ p.toRemote.endEntries "to_remote"
  else []

end Pipe

end Tether.Relay
