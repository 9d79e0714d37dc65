/-!
What a relay moved, counted in bytes.
-/

namespace Tether.Relay

/-- The bytes that a relay moved in each direction. -/
structure Stats where
  toLocal : Nat := 0
  toRemote : Nat := 0
  deriving DecidableEq, Repr

end Tether.Relay
