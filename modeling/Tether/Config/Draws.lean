import Tether.Text.Record

/-!
The names made up for a node that nobody named, and their shapes. A host name is a fixed word with
eight hexadecimal digits behind it; a client id is a random UUID, which shows its version 4 and its
variant in fixed places.
-/

namespace Tether.Config

open Tether.Text

/-- Random bits for the names that nobody gave. -/
structure Draws where
  host : UInt32
  clientHigh : UInt64
  clientLow : UInt64
  deriving DecidableEq, Repr

/-- A number in lower-case hexadecimal, zeros in front up to the width. -/
def paddedHex (width n : Nat) : String :=
  let digits := Nat.toDigits 16 n
  String.ofList (List.replicate (width - digits.length) '0' ++ digits)

/-- The host name that is made up. -/
def Draws.hostname (d : Draws) : String := "overlink-" ++ paddedHex 8 d.host.toNat

/-- The client id that is made up: a random UUID, its version 4 and its variant in their places. -/
def Draws.clientId (d : Draws) : String :=
  let high := d.clientHigh.toNat
  let low := d.clientLow.toNat
  let bits (start width n : Nat) : Nat := n / Nat.pow 2 start % Nat.pow 2 width
  joinWith "-" [
    paddedHex 8 (bits 32 32 high), paddedHex 4 (bits 16 16 high),
    paddedHex 4 (0x4000 + bits 0 12 high), paddedHex 4 (0x8000 + bits 48 14 low),
    paddedHex 12 (bits 0 48 low)]

/-! ## Shapes -/

/-- A lower-case hexadecimal digit. -/
def isLowerHex (c : Char) : Bool := c.isDigit || ('a' ≤ c && c ≤ 'f')

/-- A text of the shape of the host names that are made up. -/
def looksMadeUp (s : String) : Bool :=
  let cs := s.toList
  "overlink-".toList.isPrefixOf cs && cs.length = 17 && (cs.drop 9).all isLowerHex

/-- The test that a place of a UUID of version 4 has to pass. -/
def uuidTest (i : Nat) (c : Char) : Bool :=
  if i = 8 ∨ i = 13 ∨ i = 18 ∨ i = 23 then c = '-'
  else if i = 14 then c = '4'
  else if i = 19 then c = '8' || c = '9' || c = 'a' || c = 'b'
  else isLowerHex c

/-- A text of the shape of a UUID of version 4. -/
def looksRandom (s : String) : Bool :=
  s.toList.length = 36 && s.toList.zipIdx.all fun x => uuidTest x.2 x.1

end Tether.Config
