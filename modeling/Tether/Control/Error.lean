/-!
What can go wrong between the agent and the control plane, and the wording of each cause.
-/

namespace Tether.Control

/-- Why an exchange over HTTP brought no response. -/
inductive HttpFault
  /-- No response came in time. -/
  | timeout
  /-- The responses sent the request round too often. -/
  | redirect
  /-- The request could not be formed. -/
  | builder
  /-- No connection came about. -/
  | connect
  /-- The connection broke before a response. -/
  | request
  deriving DecidableEq, Repr

/-- The name of a fault. -/
def HttpFault.name : HttpFault → String
  | .timeout => "timeout"
  | .redirect => "redirect"
  | .builder => "builder"
  | .connect => "connect"
  | .request => "request"

/-- Why no key came from the control plane. -/
inductive Error
  /-- The exchange failed; the text says how. -/
  | http (fault : HttpFault) (text : String)
  /-- The control plane refused. -/
  | api (status : Nat) (reason : String)
  /-- The response makes no sense. -/
  | invalidResponse (reason : String)
  /-- The client is not set up to ask. -/
  | config (reason : String)
  deriving DecidableEq, Repr

/-- The wording of an error. -/
def Error.message : Error → String
  | .http _ text => "HTTP request failed: " ++ text
  | .api status reason => "Control plane API error (" ++ toString status ++ "): " ++ reason
  | .invalidResponse reason => "Invalid response: " ++ reason
  | .config reason => "Configuration error: " ++ reason

end Tether.Control
