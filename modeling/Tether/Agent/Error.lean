import Tether.Overlay.Error

/-!
What keeps the agent from running, and the wording of each cause.
-/

namespace Tether.Agent

/-- Why the agent does not run. -/
inductive Error
  /-- No session came up. -/
  | sessionStart (cause : Overlay.Error)
  /-- The session came up, but its liveness port could not be listened on. -/
  | liveness (cause : Overlay.Error)
  /-- The configuration makes no sense. -/
  | invalidConfig (reason : String)
  deriving DecidableEq, Repr

/-- The wording of an error. -/
def Error.message : Error → String
  | .sessionStart cause => "Failed to start overlay session: " ++ cause.message
  | .liveness cause => "Failed to open liveness listener: " ++ cause.message
  | .invalidConfig reason => "Invalid configuration: " ++ reason

/-- The name of the kind of an error. -/
def Error.kind : Error → String
  | .sessionStart _ => "SessionStart"
  | .liveness _ => "Liveness"
  | .invalidConfig _ => "InvalidConfig"

end Tether.Agent
