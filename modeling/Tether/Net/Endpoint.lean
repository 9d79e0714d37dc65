import Tether.Net.Ip

/-!
The two ends of a connection: an address with a port, written `address:port` for version 4 and
`[address]:port` for version 6.
-/

namespace Tether.Net

open Tether.Text

/-- An address with a port. -/
structure Endpoint where
  ip : Ip
  port : UInt16
  deriving DecidableEq, Repr

/-- The canonical text of an endpoint. -/
def Endpoint.text (e : Endpoint) : String :=
  match e.ip with
  | .v4 x => x.text ++ ":" ++ toString e.port.toNat
  | .v6 x => "[" ++ x.text ++ "]:" ++ toString e.port.toNat

/-- Reads the port that ends an endpoint. -/
def readEndpointPort (cs : List Char) : Option UInt16 := do
  let cs ← readChar ':' cs
  let (p, rest) ← readShort 10 maxPort cs.length true cs
  if rest.isEmpty then some p.toUInt16 else none

/-- Reads a whole text as an endpoint. -/
def Endpoint.parse? (s : String) : Option Endpoint :=
  match s.toList with
  | '[' :: cs => do
    let (x, rest) ← readIpv6 cs
    let rest ← readChar ']' rest
    return ⟨.v6 x, ← readEndpointPort rest⟩
  | cs => do
    let (x, rest) ← readIpv4 cs
    return ⟨.v4 x, ← readEndpointPort rest⟩

end Tether.Net
