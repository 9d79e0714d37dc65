import Tether.Log
import Tether.Sim.Network

/-!
Checking the health of a session: there must be one, its client must be had, the client must give
the status, and the status must show that the node belongs to a network. The first of these that
fails is why the check fails.
-/

namespace Tether.Agent

open Tether.Overlay Tether.Sim

/-- Why a health check failed. -/
inductive HealthError
  | noSession
  | localClient (cause : Overlay.Error)
  | status (cause : Overlay.Error)
  | notMember (backendState : String)
  deriving DecidableEq, Repr

/-- The wording of a failed check. -/
def HealthError.message : HealthError → String
  | .noSession => "no active session"
  | .localClient cause => "failed to get local client: " ++ cause.message
  | .status cause => "failed to get local client status: " ++ cause.message
  | .notMember backendState =>
    "node is not a network member (backend state " ++ backendState ++ ")"

/-- Checks the health of the session that is held, if one is. -/
def checkHealth (net : Network) : Option Nat → Network × Except HealthError Status
  | none => (net, .error .noSession)
  | some id =>
    match net.localClient with
    | (net, .error cause) => (net, .error (.localClient cause))
    | (net, .ok ()) =>
      match net.status id with
      | (net, .error cause) => (net, .error (.status cause))
      | (net, .ok status) =>
        (net, if status.isMember then .ok status else .error (.notMember status.backendState))

end Tether.Agent
