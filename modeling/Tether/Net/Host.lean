import Tether.Net.Endpoint
import Tether.Net.Fault

/-!
A host without a link. Sockets can be bound on it as on any host, at the addresses that are its own,
but every dial fails at once, also one to an address of its own.
-/

namespace Tether.Net

/-- The listening sockets of a host, by their numbers. -/
structure Host where
  sockets : List (Nat × Endpoint) := []
  /-- The number of the next socket. -/
  next : Nat := 0
  /-- The addresses at which a socket can be bound: unless something else is said, all of version 4,
  and of version 6 the one that stands for all. -/
  own : Ip → Bool := fun ip =>
    match ip with
    | .v4 _ => true
    | .v6 _ => ip.isUnspecified

/-- Two sockets cannot be bound at the same time: they have the same port, and one address is the
other or takes it in. -/
def Endpoint.clashes (a b : Endpoint) : Bool :=
  a.port == b.port && (a.ip == b.ip || a.ip.isUnspecified || b.ip.isUnspecified)

namespace Host

/-- The socket of a number. -/
def socket? (h : Host) (id : Nat) : Option Endpoint := h.sockets.lookup id

/-- Nothing that is bound clashes with the endpoint. -/
def isFree (h : Host) (e : Endpoint) : Bool := h.sockets.all fun s => !s.2.clashes e

/-- The port given to who does not care: the first from 32768 up that nothing is bound to. -/
def freePort? (h : Host) : Option UInt16 :=
  ((List.range 32768).map fun i => (32768 + i).toUInt16).find? fun p =>
    h.sockets.all fun s => s.2.port ≠ p

/-- Binds a socket to an endpoint. -/
def bindAt (h : Host) (e : Endpoint) : Except Fault (Host × Nat) :=
  if !h.own e.ip then .error .addressNotAvailable
  else if h.isFree e then
    .ok ({ h with sockets := (h.next, e) :: h.sockets, next := h.next + 1 }, h.next)
  else .error .addressInUse

/-- Binds a socket; the port 0 stands for any that is free. -/
def bind (h : Host) (ip : Ip) (port : UInt16) : Except Fault (Host × Nat) :=
  if port ≠ 0 then h.bindAt ⟨ip, port⟩
  else
    match h.freePort? with
    | some p => h.bindAt ⟨ip, p⟩
    | none => .error .addressInUse

/-- Lets go of a socket. -/
def release (h : Host) (id : Nat) : Host :=
  { h with sockets := h.sockets.filter fun s => s.1 ≠ id }

end Host

/-! ## Dialing -/

/-- The wording of an address that does not divide into a host and a port. -/
def Fault.noPort : Fault := ⟨"InvalidInput", "invalid socket address"⟩

/-- The wording of a port that is none. -/
def Fault.badPort : Fault := ⟨"InvalidInput", "invalid port value"⟩

/-- No address is known for a name. -/
def Fault.unknownName (reason : String) : Fault :=
  ⟨"Uncategorized", "failed to lookup address information: " ++ reason⟩

/-- The characters before the last colon and those after it. -/
def splitLastColon (cs : List Char) : Option (List Char × List Char) :=
  let port := (cs.reverse.takeWhile (· ≠ ':')).reverse
  if port.length = cs.length then none else some (cs.take (cs.length - port.length - 1), port)

/-- The endpoint that a dialed text names. The only name known is that of this host. -/
def resolve (address : String) : Except Fault Endpoint :=
  match Endpoint.parse? address with
  | some e => .ok e
  | none =>
    match splitLastColon address.toList with
    | none => .error .noPort
    | some (name, port) =>
      match Text.readNumeral 10 Text.maxPort port with
      | .error _ => .error .badPort
      | .ok p =>
        match String.ofList name, Ip.parse? (String.ofList name) with
        | "localhost", _ => .ok ⟨.v4 .loopback, p.toUInt16⟩
        | _, some ip => .ok ⟨ip, p.toUInt16⟩
        | "", none => .error (.unknownName "Name or service not known")
        | _, none => .error (.unknownName "Temporary failure in name resolution")

/-- What becomes of a dial on a host without a link. -/
def dialFault (address : String) : Fault :=
  match resolve address with
  | .error fault => fault
  | .ok _ => .unreachable

end Tether.Net
