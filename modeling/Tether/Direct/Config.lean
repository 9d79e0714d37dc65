import Tether.Direct.Forward
import Tether.Net.Ip

/-!
The configuration of the direct backend: the address that stands in for the overlay, and the ports
whose connections go to the fallback.
-/

namespace Tether.Direct

open Tether.Net

/-- The configuration of the direct backend. -/
structure Config where
  bindHost : Ip := .v4 .loopback
  forwards : List Forward := []
  deriving DecidableEq, Repr

end Tether.Direct
