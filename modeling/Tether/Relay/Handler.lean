import Tether.Net.Fault
import Tether.Overlay.Routing
import Tether.Relay.Tracker

/-!
The relay as a fallback: it takes every connection, and aims it at the port of the same number on
the target host.
-/

namespace Tether.Relay

open Tether.Net Tether.Overlay

/-- A local service could not be reached. -/
structure Error where
  address : String
  fault : Fault
  deriving DecidableEq, Repr

/-- The wording of an error. -/
def Error.message (e : Error) : String :=
  "Failed to connect to local address " ++ e.address ++ ": " ++ e.fault.text

/-- The local address for a destination. -/
def targetFor (host : String) (destination : Endpoint) : String :=
  host ++ ":" ++ toString destination.port.toNat

/-- The decision about a connection: the relay always takes it. -/
def route (host : String) (source destination : Endpoint) : Routing Record :=
  .intercept ⟨source, destination, targetFor host destination⟩

@[simp] theorem isIntercept_route (host : String) (source destination : Endpoint) :
    (route host source destination).isIntercept = true := rfl

end Tether.Relay
