import Tether.Http.Responder
import Tether.Log
import Tether.Net.Duplex
import Tether.Net.Endpoint
import Tether.Sim.Network

/-!
Services at the accepting end of a stream. A service does all it can with what has come, and then
waits; when it is done, it lets its end of the stream go.
-/

namespace Tether.Sim

open Tether.Http Tether.Net

/-- The most bytes an echo holds back before it reads on. -/
def echoHold : Nat := 8192

/-- A service at work on a stream. -/
inductive Service
  /-- Answers requests for the liveness page; these bytes of its answers are still to be sent. -/
  | liveness (peer : Endpoint) (responder : Responder) (left : List UInt8)
  /-- Sends the last bytes of its answers and then closes. -/
  | closing (peer : Endpoint) (left : List UInt8) (fault : Option Http.Fault)
  /-- Sends back what it reads; these bytes are still to be sent. -/
  | echo (held : List UInt8)
  /-- Sends these bytes and closes. -/
  | greet (left : List UInt8)
  /-- Has let go of its end. -/
  | over
  deriving DecidableEq, Repr

/-- The service that begins on a connection which the fallback takes; a relay finds no local service
in the memory of a test, and lets go at once. -/
def Service.ofFallback : Fallback → Service
  | .echo => .echo []
  | .greet text => .greet text
  | .pass | .relay | .between _ _ => .over

/-- What the log says about a liveness connection that broke. -/
def brokenEntry (peer : Endpoint) (fault : Http.Fault) : Entry :=
  ⟨.trace, .liveness, "Liveness connection error", [
    ("peer", peer.text), ("error", fault.message)]⟩

/-- Offers bytes to a channel: what is left of them, and whether the channel still takes any. -/
def offer (c : Channel) (bytes : List UInt8) : Channel × List UInt8 × Bool :=
  if bytes.isEmpty then (c, [], true)
  else
    match c.write bytes with
    | (c, .took n) => (c, bytes.drop n, true)
    | (c, .full) => (c, bytes, true)
    | (c, .broken) => (c, bytes, false)

/-- Writes what is left and then closes. -/
def finish (peer : Endpoint) (left : List UInt8) (fault : Option Http.Fault) (d : Duplex) :
    Service × Duplex × List Entry :=
  let (out, left, writable) := offer d.fromAcceptor left
  let d := { d with fromAcceptor := out }
  if !writable then (.over, d.drop .acceptor, [brokenEntry peer .unwritable])
  else if left.isEmpty then (.over, d.drop .acceptor, (fault.map (brokenEntry peer)).toList)
  else (.closing peer left fault, d, [])

/-- An echo at work: it sends what it holds, then reads on as far as it may hold more. The bytes
that it holds at last come back, unless it is at its end. -/
def echoOn (held : List UInt8) (input output : Channel) : Option (List UInt8) × Channel × Channel :=
  let (output, held, writable) := offer output held
  let room := echoHold - held.length
  if !writable then (none, input, output)
  else if _h : 0 < room ∧ input.buffer ≠ [] then
    echoOn (held ++ input.buffer.take room) { input with buffer := input.buffer.drop room } output
  else if input.isOver && held.isEmpty then (none, input, output)
  else (some held, input, output)
termination_by input.buffer.length
decreasing_by
  have := List.length_pos_iff.2 _h.2
  simp only [List.length_drop]
  omega

/-- A service does all it can. -/
def Service.run (s : Service) (d : Duplex) : Service × Duplex × List Entry :=
  match s with
  | .liveness peer responder left =>
    let input := d.fromDialer
    let d := { d with fromDialer := { input with buffer := [] } }
    match { responder with input := responder.input ++ input.buffer }.run input.closed with
    | (out, .closes fault) => finish peer (left ++ out) fault d
    | (out, .waits responder) =>
      let (output, left, writable) := offer d.fromAcceptor (left ++ out)
      if writable then (.liveness peer responder left, { d with fromAcceptor := output }, [])
      else (.over, d.drop .acceptor, [brokenEntry peer .unwritable])
  | .closing peer left fault => finish peer left fault d
  | .echo held =>
    match echoOn held d.fromDialer d.fromAcceptor with
    | (some held, input, output) => (.echo held, ⟨input, output⟩, [])
    | (none, input, output) => (.over, Duplex.drop ⟨input, output⟩ .acceptor, [])
  | .greet left =>
    let (output, left, writable) := offer d.fromAcceptor left
    let d := { d with fromAcceptor := output }
    if writable && !left.isEmpty then (.greet left, d, []) else (.over, d.drop .acceptor, [])
  | .over => (.over, d.drop .acceptor, [])

end Tether.Sim
