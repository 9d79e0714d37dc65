import Tether.Relay.Handler
import Tether.Relay.Pipe

/-!
Inbound connections on their way through the relay. Each is dialed on to a local address; if that
works it enters the book and a pipe moves its bytes, and when the pipe returns it leaves the book.
If the dial fails the inbound stream is closed without a byte moved. Connections are independent of
the session that brought them, and of each other but for their numbers in the book.
-/

namespace Tether.Relay

open Tether.Net Tether.Overlay

/-- How far a connection has come. -/
inductive Stage
  /-- The local address is being dialed. -/
  | dialing (inbound : Duplex)
  /-- Bytes are moved; in the book under this number, if it is kept in the book. -/
  | relaying (id : Option Nat) (pipe : Pipe)
  /-- It is over; what the peer has not read is still there. -/
  | ended (outcome : Except Error Stats) (inbound : Duplex)

/-- A connection: what the book says of it, if it is kept in the book, and the local address. -/
structure Connection where
  record : Option Record
  address : String
  stage : Stage

/-- All connections in the order of their arrival, the book, and the log. -/
structure Board where
  tracker : Tracker := .empty
  connections : List Connection := []
  log : List Entry := []

namespace Connection

/-- The stream to the peer. -/
def inbound (c : Connection) : Duplex :=
  match c.stage with
  | .dialing d => d
  | .relaying _ p => p.inbound
  | .ended _ d => d

/-- What came of the connection, once it is over. -/
def outcome? (c : Connection) : Option (Except Error Stats) :=
  match c.stage with
  | .ended outcome _ => some outcome
  | _ => none

/-- The local address is still being dialed. -/
def isDialing (c : Connection) : Bool :=
  match c.stage with
  | .dialing _ => true
  | _ => false

/-- The pipe of a connection moves bytes. -/
def isRelaying (c : Connection) : Bool :=
  match c.stage with
  | .relaying _ _ => true
  | _ => false

end Connection

/-! ## What the log says -/

/-- The entry about a connection that is taken. -/
def takenEntry (r : Record) : Entry :=
  ⟨.debug, .relay, "Relaying connection", [
    ("source", r.source.text), ("destination", r.destination.text), ("target", r.target)]⟩

/-- The entry about a dial that failed. -/
def undialedEntry (r : Record) (e : Error) : Entry :=
  ⟨.error, .relay, "Failed to dial local service", [
    ("source", r.source.text), ("error", e.message)]⟩

/-- The entry about a relay that is over. -/
def completedEntry (r : Record) (s : Stats) : Entry :=
  ⟨.debug, .relay, "Relay completed", [
    ("source", r.source.text), ("target", r.target),
    ("bytes_to_local", toString s.toLocal), ("bytes_to_remote", toString s.toRemote)]⟩

namespace Board

/-- The capacity of the streams that connections arrive on. -/
def streamCapacity : Nat := 65536

/-- Takes a connection in; its place in the order of arrival is its name from then on. -/
def take (b : Board) (record : Option Record) (address : String) : Board × Nat :=
  ({ b with
      connections := b.connections ++ [⟨record, address, .dialing (.ofCapacity streamCapacity)⟩]
      log := b.log ++ (record.map takenEntry).toList },
    b.connections.length)

/-- Takes in a connection that the relay decided about. -/
def takeRouted (b : Board) (routing : Routing Record) : Board × Option Nat :=
  match routing with
  | .intercept r =>
    let (b, i) := b.take (some r) r.target
    (b, some i)
  | .pass => (b, none)

/-- Sets how far a connection has come. -/
def setStage (b : Board) (i : Nat) (stage : Stage) : Board :=
  { b with connections := b.connections.modify i fun c => { c with stage := stage } }

/-- Ends a connection whose pipe has returned: it leaves the book. -/
def finish (b : Board) (i : Nat) (c : Connection) (id : Option Nat) (p : Pipe) : Board :=
  match p.stats with
  | none => b.setStage i (.relaying id p)
  | some stats =>
    let struck := match id with
      | some id => (b.tracker.unregister id, b.tracker.unregisterEntries id)
      | none => (b.tracker, [])
    { b.setStage i (.ended (.ok stats) p.inbound) with
      tracker := struck.1
      log := b.log ++ p.entries ++ struck.2 ++ (c.record.map (completedEntry · stats)).toList }

/-- The dial of a connection succeeds, with a stream of a capacity to the service. -/
def connected (b : Board) (i : Nat) (capacity : Nat) : Board :=
  match b.connections[i]? with
  | some ⟨record, address, .dialing d⟩ =>
    let pipe : Pipe := ⟨d, .ofCapacity capacity, .fresh, .fresh, none⟩
    match record with
    | some r =>
      let (tracker, id) := b.tracker.register r
      let b := { b with tracker := tracker, log := b.log ++ b.tracker.registerEntries r }
      b.finish i ⟨record, address, .dialing d⟩ (some id) pipe.settle
    | none => b.finish i ⟨record, address, .dialing d⟩ none pipe.settle
  | _ => b

/-- The dial of a connection fails. -/
def unreachable (b : Board) (i : Nat) (fault : Fault) : Board :=
  match b.connections[i]? with
  | some ⟨record, address, .dialing d⟩ =>
    let e : Error := ⟨address, fault⟩
    { b.setStage i (.ended (.error e) (d.drop .acceptor)) with
      log := b.log ++ (record.map (undialedEntry · e)).toList }
  | _ => b

/-- The peer of a connection acts on its stream. -/
def peer (b : Board) (i : Nat) (act : Duplex → Duplex × α) : Board × Option α :=
  match b.connections[i]? with
  | none => (b, none)
  | some c =>
    let (d, a) := act c.inbound
    match c.stage with
    | .dialing _ => (b.setStage i (.dialing d), some a)
    | .ended outcome _ => (b.setStage i (.ended outcome d), some a)
    | .relaying id p => (b.finish i c id ({ p with inbound := d }.settle), some a)

/-- The service of a connection acts on its stream. -/
def service (b : Board) (i : Nat) (act : Duplex → Duplex × α) : Board × Option α :=
  match b.connections[i]? with
  | some ⟨record, address, .relaying id p⟩ =>
    let (d, a) := act p.outbound
    (b.finish i ⟨record, address, .relaying id p⟩ id ({ p with outbound := d }.settle), some a)
  | _ => (b, none)

/-- Every dial under way is answered, on a host where each has the fault that its address calls
for. -/
def settleDials (b : Board) (fault : String → Fault) : Board :=
  (List.range b.connections.length).foldl (fun b i =>
    match b.connections[i]? with
    | some c => if c.isDialing then b.unreachable i (fault c.address) else b
    | none => b) b

end Board

end Tether.Relay
