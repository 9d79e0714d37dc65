import Tether.Agent.Handle
import Tether.Http.Responder

/-!
A probe of the liveness endpoint: one request, sent over the overlay to a port of the session in
the slot, that asks to close the connection behind the answer.
-/

namespace Tether.Agent

open Tether.Http

/-- The request of a probe. -/
def probeRequest : String := "GET / HTTP/1.1\r\nHost: n\r\nConnection: close\r\n\r\n"

/-- What a probe finds. -/
inductive Probe
  | noSession
  | notListening
  | answered (bytes : List UInt8)
  deriving DecidableEq, Repr

/-- Probes a port. -/
def Supervisor.probe (s : Supervisor) (port : UInt16) : Probe :=
  match s.slot with
  | none => .noSession
  | some slot =>
    if (s.net.session? slot.session).any (·.isListening port) then
      .answered (Responder.run { input := bytesOf probeRequest } false).1
    else .notListening

end Tether.Agent
