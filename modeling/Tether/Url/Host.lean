import Tether.Net.Ip
import Tether.Url.Domain

/-!
Hosts. A bracketed host is an address of version 6. Under a known scheme any other host is a
domain name, unless its last label is a number: then it is an address of version 4, whose one to
four numbers may be octal or hexadecimal and the last of which fills the octets that are left.
Under an unknown scheme a host is any text without the characters that would end it.
-/

namespace Tether.Url

open Tether.Text Tether.Net

/-- The host of a URL. -/
inductive Host
  | name (text : String)
  | ip (addr : Ip)
  deriving DecidableEq, Repr

/-- The text of a host in a URL. -/
def Host.text : Host → String
  | .name text => text
  | .ip (.v4 x) => x.text
  | .ip (.v6 x) => "[" ++ x.text ++ "]"

/-! ## Addresses of version 4 -/

/-- Reads one number of an address: hexadecimal after `0x`, octal after `0`, else decimal. The
digits may be missing after `0x`. -/
def readOctets? (cs : List Char) : Option Nat :=
  let digits (base : Nat) (ds : List Char) : Option Nat :=
    if ds.all fun c => (digitValue? base c).isSome then
      some (ds.foldl (fun n c => base * n + (digitValue? base c).getD 0) 0)
    else none
  match cs with
  | [] => none
  | '0' :: 'x' :: ds => digits 16 ds
  | '0' :: 'X' :: ds => digits 16 ds
  | '0' :: d :: ds => digits 8 (d :: ds)
  | ds => digits 10 ds

/-- The labels without an empty last one. -/
def dropEmptyLast (parts : List (List Char)) : List (List Char) :=
  match parts.reverse with
  | [] :: rest => rest.reverse
  | _ => parts

/-- The last label is a number, so the name must be an address. -/
def endsInNumber (cs : List Char) : Bool :=
  match (dropEmptyLast (labels cs)).getLast? with
  | none => false
  | some last => (!last.isEmpty && last.all Char.isDigit) || (readOctets? last).isSome

/-- The address whose bytes are those of a number of 32 bits. -/
def Ipv4.ofNat (n : Nat) : Ipv4 :=
  ⟨(n / 0x1000000).toUInt8, (n / 0x10000).toUInt8, (n / 0x100).toUInt8, n.toUInt8⟩

/-- Reads an address of version 4 of one to four numbers. -/
def readAddress (cs : List Char) : Except Fault Ipv4 :=
  let parts := dropEmptyLast (labels cs)
  if 4 < parts.length then .error .badIpv4
  else
    match parts.mapM readOctets? with
    | none => .error .badIpv4
    | some ns =>
      let front := ns.dropLast
      let last := ns.getLastD 0
      if Nat.pow 256 (4 - front.length) ≤ last ∨ front.any (255 < ·) then .error .badIpv4
      else
        let high := front.foldl (fun n x => 256 * n + x) 0
        .ok (Ipv4.ofNat (high * Nat.pow 256 (4 - front.length) + last))

/-! ## Hosts -/

/-- Reads the address between brackets. -/
def readBracketed (cs : List Char) : Except Fault Host :=
  match cs.getLast?, readIpv6 cs.dropLast with
  | some ']', some (x, []) => .ok (.ip (.v6 x))
  | _, _ => .error .badIpv6

/-- Reads the host of a known scheme. -/
def readHost (read : DomainReader) (cs : List Char) : Except Fault Host :=
  match cs with
  | '[' :: rest => readBracketed rest
  | _ => do
    let domain ← read (percentDecode (String.ofList cs).toUTF8.toList)
    if domain = "" then throw .emptyHost
    if endsInNumber domain.toList then return .ip (.v4 (← readAddress domain.toList))
    return .name domain

/-- Characters that the host of an unknown scheme may not hold. -/
def isHostEnd (c : Char) : Bool := c = '\x00' || " #/:<>?@[\\]^|".toList.contains c

/-- Reads the host of an unknown scheme. -/
def readOpaqueHost (cs : List Char) : Except Fault Host :=
  match cs with
  | '[' :: rest => readBracketed rest
  | _ =>
    if cs.any isHostEnd then .error .badHostChar
    else .ok (.name (percentEncode inControlSet cs))

end Tether.Url
