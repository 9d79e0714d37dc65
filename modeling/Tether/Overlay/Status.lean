import Tether.Net.Ip
import Tether.Text.Quoted

/-!
The status that a session reports of itself. All that decides about its health is whether the node
belongs to a network.
-/

namespace Tether.Overlay

open Tether.Net Tether.Text

/-- A network that the node belongs to. -/
structure Membership where
  name : String
  suffix : String
  deriving DecidableEq, Repr

/-- The status of a session. -/
structure Status where
  backendState : String
  network : Option Membership
  addresses : List Ip
  deriving DecidableEq, Repr

namespace Status

/-- The status of a node that belongs to a network. -/
def joined (network : Membership) (addresses : List Ip) : Status :=
  ⟨"Running", some network, addresses⟩

/-- The status of a node that belongs to none. -/
def detached (backendState : String) : Status := ⟨backendState, none, []⟩

/-- The status of which nothing is known. -/
def unknown : Status := detached ""

/-- The node belongs to a network. -/
def isMember (s : Status) : Bool := s.network.isSome

@[simp] theorem isMember_joined (network : Membership) (addresses : List Ip) :
    (joined network addresses).isMember = true := rfl

@[simp] theorem isMember_detached (backendState : String) :
    (detached backendState).isMember = false := rfl

end Status

/-- The text of a membership for diagnostics. -/
def Membership.debugText (m : Membership) : String :=
  recordLine "NetworkInfo" [("name", quoted m.name), ("magic_dns_suffix", quoted m.suffix)]

/-- The text of a status for diagnostics. -/
def Status.debugText (s : Status) : String :=
  recordLine "Status" [
    ("backend_state", quoted s.backendState),
    ("current_network", optionLine (s.network.map Membership.debugText)),
    ("self_addrs", listLine (s.addresses.map Ip.text))]

end Tether.Overlay
