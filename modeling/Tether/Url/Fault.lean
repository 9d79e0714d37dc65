/-!
What can be wrong with a URL, and the wording of each fault.
-/

namespace Tether.Url

/-- Why a text is no absolute URL. -/
inductive Fault
  /-- It does not begin with a scheme. -/
  | noScheme
  /-- The scheme asks for a host and there is none. -/
  | emptyHost
  /-- The host is no domain name. -/
  | badDomain
  /-- The host of an unknown scheme holds a forbidden character. -/
  | badHostChar
  /-- The host ends in a number and is no address of version 4. -/
  | badIpv4
  /-- The host is bracketed and is no address of version 6. -/
  | badIpv6
  /-- The port is no number up to 65535. -/
  | badPort
  deriving DecidableEq, Repr

/-- The wording of a fault. -/
def Fault.message : Fault → String
  | .noScheme => "relative URL without a base"
  | .emptyHost => "empty host"
  | .badDomain => "invalid international domain name"
  | .badHostChar => "invalid domain character"
  | .badIpv4 => "invalid IPv4 address"
  | .badIpv6 => "invalid IPv6 address"
  | .badPort => "invalid port number"

end Tether.Url
