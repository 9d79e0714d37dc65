import Tether.Agent.Error
import Tether.Control.Key
import Tether.Log
import Tether.Sim.Network

/-!
Building a session from a key: start it, let the relay take what no listener claims, and listen on
the liveness port. A session whose liveness port cannot be listened on is closed again, so that a
build leaves behind either one open session with everything in place or none.
-/

namespace Tether.Agent

open Tether.Control Tether.Overlay Tether.Sim

/-- What every session is built from, apart from its key. -/
structure Settings where
  hostname : String
  controlUrl : String
  stateDir : String
  livenessPort : UInt16
  deriving DecidableEq, Repr

/-- The options of a session with a key. -/
def Settings.options (s : Settings) (key : Key) : Options where
  hostname := s.hostname
  controlUrl := s.controlUrl
  ephemeral := true
  stateDir := s.stateDir
  authKey := key.text

/-- What a build came to. -/
inductive Built
  /-- No session started. -/
  | notStarted (cause : Overlay.Error)
  /-- A session started and was closed again. -/
  | halfBuilt (session : Nat) (cause : Overlay.Error)
  /-- A session is open, and this listener serves its liveness port. -/
  | ready (session listener : Nat)
  deriving DecidableEq, Repr

/-- The error of a build that failed. -/
def Built.error? : Built → Option Error
  | .notStarted cause => some (.sessionStart cause)
  | .halfBuilt _ cause => some (.liveness cause)
  | .ready _ _ => none

/-- Builds a session on a network. -/
def build (net : Network) (settings : Settings) (key : Key) : Network × Built :=
  match net.start (settings.options key) with
  | (net, .error cause) => (net, .notStarted cause)
  | (net, .ok id) =>
    let net := net.setFallback id .relay
    match net.listen id settings.livenessPort with
    | (net, .error cause) => ((net.close id).1, .halfBuilt id cause)
    | (net, .ok listener) => (net, .ready id listener)

/-- What the log says about a session that is in place. -/
def establishedEntry (settings : Settings) : Entry :=
  ⟨.info, .factory, "Overlay session established", [
    ("hostname", settings.hostname), ("liveness_port", toString settings.livenessPort.toNat)]⟩

end Tether.Agent
