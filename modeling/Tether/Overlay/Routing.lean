/-!
What becomes of an inbound connection on a port that nothing listens on.
-/

namespace Tether.Overlay

/-- The decision about an inbound connection: a service takes it, or it is dropped. -/
inductive Routing (Service : Type)
  | intercept (service : Service)
  | pass
  deriving DecidableEq, Repr

namespace Routing

/-- The connection is taken. -/
def isIntercept {Service : Type} : Routing Service → Bool
  | .intercept _ => true
  | .pass => false

/-- The text of a decision for diagnostics, which keeps the service to itself. -/
def debugText {Service : Type} : Routing Service → String
  | .intercept _ => "Intercept(..)"
  | .pass => "Pass"

end Routing

end Tether.Overlay
