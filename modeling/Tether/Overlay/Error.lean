import Tether.Net.Fault

/-!
What can go wrong with an overlay session, and the wording of each cause.
-/

namespace Tether.Overlay

open Tether.Net

/-- Why an operation on the overlay failed. -/
inductive Error
  /-- The session did not come up. -/
  | start (reason : String)
  /-- The port could not be listened on. -/
  | listen (port : UInt16) (reason : String)
  /-- The session is closed. -/
  | closed
  /-- There is no client to ask for the status. -/
  | localClient (reason : String)
  /-- The status could not be had. -/
  | status (reason : String)
  /-- Input or output failed. -/
  | io (fault : Fault)
  deriving DecidableEq, Repr

namespace Error

/-- The wording of an error. -/
def message : Error → String
  | .start reason => "Failed to start overlay session: " ++ reason
  | .listen port reason =>
    "Failed to listen on overlay port " ++ toString port.toNat ++ ": " ++ reason
  | .closed => "Overlay session closed"
  | .localClient reason => "Local client unavailable: " ++ reason
  | .status reason => "Status query failed: " ++ reason
  | .io fault => "IO error: " ++ fault.text

/-- The name of the kind of an error. -/
def kind : Error → String
  | .start _ => "Start"
  | .listen _ _ => "Listen"
  | .closed => "Closed"
  | .localClient _ => "LocalClient"
  | .status _ => "Status"
  | .io _ => "Io"

/-- The fault behind an error, if the error is about one. -/
def cause? : Error → Option Fault
  | .io fault => some fault
  | _ => none

end Error

end Tether.Overlay
